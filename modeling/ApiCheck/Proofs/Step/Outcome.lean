import ApiCheck.Proofs.Step.Json
import Mathlib.Data.List.ReduceOption

/-!
# What parsing a text comes to

Whether a text becomes a step is decided by the definition that it matches and by the arguments that
are captured (`parse_outcome`).  Every parameter of the definition captures one argument, also where
it has a group for each kind of quote (`spelled_iff_grouped`), so that none is missing when the step
is built.  What may go wrong then is that a number cannot be read (`Refuses`), since a parameter
captures the digits of all scripts and a sign, or that there is no table for the headers.
-/

namespace ApiCheck.Step

open Catalog

/-! ### Captured arguments -/

namespace Parameter

/-- The parameter captures the text `raw` somewhere. -/
def Captures (p : Parameter) (raw : String) : Prop :=
  ∃ lexeme, p.Writes lexeme raw.toList

/-- What the groups of a parameter capture where it is written as `lexeme`.  A number has one group; a
quoted text has one for each kind of quote, and the other kind captures nothing. -/
inductive Groups : (p : Parameter) → (lexeme : List Char) → List (Option String) → Prop
  | int {lexeme : List Char} (h : WholeNumber lexeme) :
      Groups .int lexeme [some (String.ofList lexeme)]
  | float {lexeme : List Char} (h : DecimalNumber lexeme) :
      Groups .float lexeme [some (String.ofList lexeme)]
  | double {inner : List Char} (h : '"' ∉ inner) :
      Groups .string ('"' :: (inner ++ ['"'])) [some (String.ofList inner), none]
  | single {inner : List Char} (h : '\'' ∉ inner) :
      Groups .string ('\'' :: (inner ++ ['\''])) [none, some (String.ofList inner)]

/-- Of the groups of a parameter one captures something, which is the argument. -/
theorem writes_iff_groups {p : Parameter} {lexeme : List Char} {raw : String} :
    p.Writes lexeme raw.toList ↔
      ∃ groups, p.Groups lexeme groups ∧ groups.reduceOption = [raw] := by
  constructor
  · intro h
    cases p with
    | int =>
      obtain ⟨hwhole, hraw⟩ := h
      exact ⟨_, .int hwhole, by rw [← hraw]; simp [List.reduceOption]⟩
    | float =>
      obtain ⟨hdecimal, hraw⟩ := h
      exact ⟨_, .float hdecimal, by rw [← hraw]; simp [List.reduceOption]⟩
    | string =>
      obtain ⟨quote, rfl | rfl, hraw, rfl⟩ := h
      · exact ⟨_, .double hraw, by simp [List.reduceOption]⟩
      · exact ⟨_, .single hraw, by simp [List.reduceOption]⟩
  · rintro ⟨groups, hgroups, hraw⟩
    cases hgroups <;> obtain rfl := List.singleton_inj.mp hraw <;> rw [String.toList_ofList]
    case int h => exact ⟨h, rfl⟩
    case float h => exact ⟨h, rfl⟩
    case double h => exact ⟨_, .inl rfl, h, rfl⟩
    case single h => exact ⟨_, .inr rfl, h, rfl⟩

theorem Groups.exists_reduceOption {p : Parameter} {lexeme : List Char}
    {groups : List (Option String)} (h : p.Groups lexeme groups) :
    ∃ raw, groups.reduceOption = [raw] := by
  cases h <;> exact ⟨_, rfl⟩

end Parameter

/-- `Grouped w groups cs`: written out, `w` is `cs`, and its groups capture `groups`. -/
inductive Grouped : List Symbol → List (Option String) → List Char → Prop
  | nil : Grouped [] [] []
  | char (c : Char) {w : List Symbol} {groups : List (Option String)} {cs : List Char}
      (rest : Grouped w groups cs) : Grouped (.char c :: w) groups (c :: cs)
  | parameter {p : Parameter} {lexeme : List Char} {own : List (Option String)} {w : List Symbol}
      {groups : List (Option String)} {cs : List Char} (first : p.Groups lexeme own)
      (rest : Grouped w groups cs) :
      Grouped (.parameter p :: w) (own ++ groups) (lexeme ++ cs)

/-- The arguments are what the groups capture, without those that capture nothing. -/
theorem spelled_iff_grouped {w : List Symbol} {arguments : List String} {cs : List Char} :
    Spelled w arguments cs ↔ ∃ groups, Grouped w groups cs ∧ groups.reduceOption = arguments := by
  constructor
  · intro h
    induction h with
    | nil => exact ⟨[], .nil, rfl⟩
    | char c rest ih =>
      obtain ⟨groups, hgroups, harguments⟩ := ih
      exact ⟨groups, .char c hgroups, harguments⟩
    | parameter first rest ih =>
      obtain ⟨groups, hgroups, rfl⟩ := ih
      obtain ⟨own, hown, hargument⟩ := Parameter.writes_iff_groups.mp first
      exact ⟨own ++ groups, .parameter hown hgroups, by
        rw [List.reduceOption_append, hargument, List.singleton_append]⟩
  · rintro ⟨groups, h, rfl⟩
    induction h with
    | nil => exact .nil
    | char c rest ih => exact .char c ih
    | parameter first rest ih =>
      -- The groups of the parameter come down to one argument, in front of those of the rest.
      obtain ⟨raw, hraw⟩ := first.exists_reduceOption
      rw [List.reduceOption_append, hraw, List.singleton_append]
      exact .parameter (Parameter.writes_iff_groups.mpr ⟨_, first, hraw⟩) ih

/-- There is one argument for each parameter, in their order. -/
theorem captures_of_spelled {e : Expression} {arguments : List String} {cs : List Char}
    (h : Spelled (symbols e) arguments cs) :
    List.Forall₂ Parameter.Captures e.parameters arguments := by
  induction e generalizing arguments cs with
  | nil =>
    cases h
    exact .nil
  | cons part e ih =>
    cases part with
    | text lead =>
      obtain ⟨rest, -, hrest⟩ :=
        spelled_text.mp (show Spelled (lead.map .char ++ symbols e) _ _ from h)
      exact ih hrest
    | parameter p =>
      obtain ⟨lexeme, argument, arguments', rest, first, hrest, rfl, -⟩ :=
        spelled_parameter.mp (show Spelled (.parameter p :: symbols e) _ _ from h)
      exact .cons ⟨lexeme, first⟩ (ih hrest)

/-! ### Numbers -/

/-- A digit of the text is none of the ASCII digits. -/
def ForeignDigit (raw : String) : Prop :=
  ∃ c ∈ raw.toList, Text.isDecimalDigit c = true ∧ c.isDigit = false

/-- Of the whole numbers that a parameter captures, those are read that consist of ASCII digits and
keep to the limit. -/
theorem exists_readUnsigned_iff {limit : Nat} {cs : List Char} (h : Parameter.WholeNumber cs) :
    (∃ n, readUnsigned limit cs = .ok n) ↔
      (∀ c ∈ cs, c.isDigit = true) ∧ Nat.ofDigitChars 10 cs 0 ≤ limit := by
  constructor
  · rintro ⟨n, hn⟩
    obtain ⟨⟨sign, digits, hsign, hne, hdigits, rfl, rfl⟩, hle⟩ := readUnsigned_eq_ok_iff.mp hn
    rcases hsign with rfl | rfl
    · exact ⟨hdigits, hle⟩
    · -- No number is captured with a plus sign.
      exact absurd (h.inNumber '+' List.mem_cons_self) (by decide)
  · rintro ⟨hdigits, hle⟩
    refine ⟨Nat.ofDigitChars 10 cs 0, ?_⟩
    rw [readUnsigned_eq h.ne_nil hdigits, appendDigits_eq_ok hdigits hle]

theorem Parameter.WholeNumber.minus_or_digit {cs : List Char} (h : Parameter.WholeNumber cs) :
    ∀ c ∈ cs, c = '-' ∨ Text.isDecimalDigit c = true := by
  obtain ⟨sign, digits, hsign, -, hdigits, rfl⟩ := h
  intro c hc
  rcases List.mem_append.mp hc with hc | hc
  · rcases hsign with rfl | rfl
    · cases hc
    · exact .inl (List.mem_singleton.mp hc)
  · exact .inr (hdigits c hc)

/-- A decimal that is captured is in positional notation if its digits are ASCII digits. -/
theorem Parameter.DecimalNumber.exists_signed {cs : List Char} (h : Parameter.DecimalNumber cs)
    (hascii : ∀ c ∈ cs, Text.isDecimalDigit c = true → c.isDigit = true) :
    ∃ negative digits exponent, Signed cs negative digits exponent := by
  obtain ⟨sign, whole, point, fraction, hsign, hwhole, hpoint, hne, hfraction, rfl⟩ := h
  have hdigits : ∀ c ∈ whole ++ fraction, c.isDigit = true := by
    intro c hc
    have hdecimal : Text.isDecimalDigit c = true :=
      (List.mem_append.mp hc).elim (hwhole c) (hfraction c)
    refine hascii c ?_ hdecimal
    simp only [List.mem_append] at hc ⊢
    tauto
  have hbody : ∃ digits exponent, Positional (whole ++ point ++ fraction) digits exponent := by
    rcases hpoint with rfl | rfl
    · rw [List.append_nil]
      exact ⟨_, _, .whole (List.append_ne_nil_of_right_ne_nil _ hne) hdigits⟩
    · rw [List.append_assoc, List.singleton_append]
      exact ⟨_, _, .point hne hdigits⟩
  obtain ⟨digits, exponent, hbody⟩ := hbody
  rw [List.append_assoc, List.append_assoc, ← List.append_assoc whole]
  rcases hsign with rfl | rfl
  · exact ⟨_, _, _, .plain hbody⟩
  · exact ⟨_, _, _, .minus hbody⟩

/-- In positional notation all digits are ASCII digits. -/
theorem isDigit_of_signed {cs : List Char} {negative : Bool} {digits : Nat} {exponent : Int}
    (h : Signed cs negative digits exponent) {c : Char} (hc : c ∈ cs)
    (hdecimal : Text.isDecimalDigit c = true) : c.isDigit = true := by
  rcases h.digit_or_mark c hc with hdigit | rfl | rfl
  · exact hdigit
  · exact absurd hdecimal (by decide)
  · exact absurd hdecimal (by decide)

/-- Of the decimals that a parameter captures, those with a digit that is no ASCII digit are not
read. -/
theorem readDouble_eq_none_iff {raw : String} (h : Parameter.DecimalNumber raw.toList) :
    readDouble raw.toList = none ↔ ForeignDigit raw := by
  constructor
  · intro hnone
    by_contra hforeign
    obtain ⟨negative, digits, exponent, hsigned⟩ := h.exists_signed fun c hc hdecimal => by
      by_contra hdigit
      exact hforeign ⟨c, hc, hdecimal, by simpa using hdigit⟩
    rw [hsigned.readDouble_eq] at hnone
    cases hnone
  · rintro ⟨c, hc, hdecimal, hdigit⟩
    cases hread : readDouble raw.toList with
    | none => rfl
    | some x =>
      obtain ⟨negative, digits, exponent, hsigned, -⟩ := signed_of_readDouble h hread
      rw [isDigit_of_signed hsigned hc hdecimal] at hdigit
      cases hdigit

/-! ### Arguments that are refused -/

/-- The greatest whole number that steps of a predicate take: a status has 16 bits, a size 64. -/
def limit (predicate : String) : Nat :=
  if predicate = "httpCode" then 2 ^ 16 - 1 else 2 ^ 64 - 1

/-- `Unconvertible predicate p raw`: steps of the predicate have no number for what `p` captures. -/
inductive Unconvertible (predicate : String) : (p : Parameter) → (raw : String) → Prop
  | minus {raw : String} (h : '-' ∈ raw.toList) : Unconvertible predicate .int raw
  | foreign {raw : String} (h : ForeignDigit raw) : Unconvertible predicate .int raw
  | tooLarge {raw : String} (h : limit predicate < Nat.ofDigitChars 10 raw.toList 0) :
      Unconvertible predicate .int raw
  | timing {raw : String} (hpredicate : predicate = "httpTiming") (h : ForeignDigit raw) :
      Unconvertible predicate .float raw

theorem exists_readUnsigned_iff_not_unconvertible {predicate raw : String}
    (h : Parameter.int.Captures raw) :
    (∃ n, readUnsigned (limit predicate) raw.toList = .ok n) ↔
      ¬ Unconvertible predicate .int raw := by
  obtain ⟨lexeme, hwhole, hraw⟩ := h
  rw [← hraw] at hwhole
  rw [exists_readUnsigned_iff hwhole]
  constructor
  · rintro ⟨hdigits, hle⟩ (hminus | ⟨c, hc, -, hdigit⟩ | hlt)
    · exact absurd (hdigits _ hminus) (by decide)
    · rw [hdigits c hc] at hdigit
      cases hdigit
    · exact absurd hlt (Nat.not_lt.mpr hle)
  · intro hnot
    refine ⟨fun c hc => ?_, Nat.not_lt.mp fun hlt => hnot (.tooLarge hlt)⟩
    -- What is captured holds nothing but a minus sign and digits.
    by_contra hdigit
    rcases hwhole.minus_or_digit c hc with rfl | hdecimal
    · exact hnot (.minus hc)
    · exact hnot (.foreign ⟨c, hc, hdecimal, by simpa using hdigit⟩)

/-- A definition cannot take one of the arguments that its expression captures. -/
def Definition.Refuses (d : Definition) (arguments : List String) : Prop :=
  ∃ p raw, (p, raw) ∈ d.expression.parameters.zip arguments ∧ Unconvertible d.predicate p raw

/-- The definition asks for a table, and there is none. -/
def Definition.LacksTable (d : Definition) (table : Option DataTable) : Prop :=
  d.predicate = "headers" ∧ table = none

/-! ### Building -/

/-- What building a step comes to: the step, a complaint about the table, or one about an argument
that is there. -/
inductive Outcome (d : Definition) (a : Arguments) : Except StepError Step → Prop
  | built {s : Step} (htable : ¬ d.LacksTable a.table) (hfit : ¬ d.Refuses a.captured) :
      Outcome d a (.ok s)
  | noTable (htable : d.LacksTable a.table) (hfit : ¬ d.Refuses a.captured) :
      Outcome d a (.error (.missingTable a.step))
  | refused {cause : ArgumentError} (htable : ¬ d.LacksTable a.table) (hfit : d.Refuses a.captured)
      (hcause : ∀ index, cause ≠ .missing index) :
      Outcome d a (.error (.invalidArgument a.step cause))

namespace Outcome

variable {d : Definition} {a : Arguments} {result : Except StepError Step}

theorem eq_missingTable_iff (h : Outcome d a result) {text : String} :
    result = .error (.missingTable text) ↔ text = a.step ∧ d.LacksTable a.table := by
  cases h with
  | built htable => simp [htable]
  | noTable htable => simp [htable, eq_comm]
  | refused htable => simp [htable]

theorem exists_invalidArgument_iff (h : Outcome d a result) :
    (∃ text cause, result = .error (.invalidArgument text cause)) ↔ d.Refuses a.captured := by
  cases h with
  | built _ hfit => simp [hfit]
  | noTable _ hfit => simp [hfit]
  | refused _ hfit => simp [hfit]

theorem exists_ok_iff (h : Outcome d a result) :
    (∃ s, result = .ok s) ↔ ¬ d.LacksTable a.table ∧ ¬ d.Refuses a.captured := by
  cases h with
  | built htable hfit => simp [htable, hfit]
  | noTable htable => simp [htable]
  | refused _ hfit => simp [hfit]

theorem ne_unknownStep (h : Outcome d a result) (text : String) :
    result ≠ .error (.unknownStep text) := by
  cases h <;> simp

theorem ne_missing (h : Outcome d a result) (text : String) (index : Nat) :
    result ≠ .error (.invalidArgument text (.missing index)) := by
  cases h with
  | refused _ _ hcause => simp [hcause]
  | _ => simp

end Outcome

/-- With an argument for each parameter, building comes to one of the outcomes. -/
def Settles (d : Definition) : Prop :=
  ∀ a : Arguments, List.Forall₂ Parameter.Captures d.expression.parameters a.captured →
    Outcome d a (d.build a)

theorem not_lacksTable {d : Definition} (h : d.predicate ≠ "headers") (table : Option DataTable) :
    ¬ d.LacksTable table :=
  fun hlacks => h hlacks.1

/-- Texts are never refused, nor are decimals that are taken as texts. -/
theorem not_refuses_of_texts {d : Definition}
    (h : ∀ p ∈ d.expression.parameters, p = .string ∨ p = .float ∧ d.predicate ≠ "httpTiming")
    (arguments : List String) : ¬ d.Refuses arguments := by
  rintro ⟨p, raw, hmem, hunconvertible⟩
  rcases h p (List.of_mem_zip hmem).1 with rfl | ⟨rfl, hpredicate⟩
  · cases hunconvertible
  · cases hunconvertible with
    | timing htiming => exact hpredicate htiming

theorem settles_of_texts {d : Definition} (hheaders : d.predicate ≠ "headers")
    (htexts : ∀ p ∈ d.expression.parameters,
      p = .string ∨ p = .float ∧ d.predicate ≠ "httpTiming")
    (hbuild : ∀ a : Arguments, a.captured.length = d.expression.parameters.length →
      ∃ s, d.build a = .ok s) : Settles d := by
  intro a h
  obtain ⟨s, hs⟩ := hbuild a h.length_eq.symm
  rw [hs]
  exact .built (not_lacksTable hheaders _) (not_refuses_of_texts htexts _)

theorem exists_text {a : Arguments} {index : Nat} (h : index < a.captured.length) :
    ∃ raw, a.text index = .ok raw := by
  rw [Arguments.text, List.getElem?_eq_getElem h]
  exact ⟨_, rfl⟩

theorem exists_ofText (make : String → Step) {a : Arguments} (h : a.captured.length = 1) :
    ∃ s, ofText make a = .ok s := by
  obtain ⟨raw, hraw⟩ := exists_text (by omega : 0 < a.captured.length)
  exact ⟨_, bind_eq_ok.mpr ⟨raw, hraw, rfl⟩⟩

theorem exists_ofTexts (make : String → String → Step) {a : Arguments}
    (h : a.captured.length = 2) : ∃ s, ofTexts make a = .ok s := by
  obtain ⟨first, hfirst⟩ := exists_text (by omega : 0 < a.captured.length)
  obtain ⟨second, hsecond⟩ := exists_text (by omega : 1 < a.captured.length)
  exact ⟨_, bind_eq_ok.mpr ⟨first, hfirst, bind_eq_ok.mpr ⟨second, hsecond, rfl⟩⟩⟩

/-- What reading an argument that is there comes to: a value, or a complaint about the argument. -/
inductive Reads (a : Arguments) {α : Type} (refused : Prop) : Except StepError α → Prop
  | value {x : α} (h : ¬ refused) : Reads a refused (.ok x)
  | complaint {cause : ArgumentError} (h : refused) (hcause : ∀ index, cause ≠ .missing index) :
      Reads a refused (.error (.invalidArgument a.step cause))

theorem reads_nat {a : Arguments} {predicate raw : String} {n index : Nat}
    (hn : limit predicate = n) (h : a.captured[index]? = some raw)
    (hraw : Parameter.int.Captures raw) :
    Reads a (Unconvertible predicate .int raw) (a.nat n index) := by
  have hread : (∃ i, readUnsigned n raw.toList = .ok i) ↔ ¬ Unconvertible predicate .int raw :=
    hn ▸ exists_readUnsigned_iff_not_unconvertible hraw
  simp only [Arguments.nat, Arguments.text, h, bind, Except.bind]
  cases hvalue : readUnsigned n raw.toList with
  | ok i => exact .value (hread.mp ⟨i, hvalue⟩)
  | error cause =>
    refine .complaint (not_not.mp fun hnot => ?_) (by simp)
    obtain ⟨i, hi⟩ := hread.mpr hnot
    rw [hvalue] at hi
    cases hi

theorem reads_double {a : Arguments} {raw : String} {index : Nat}
    (h : a.captured[index]? = some raw) (hraw : Parameter.float.Captures raw) :
    Reads a (Unconvertible "httpTiming" .float raw) (a.double index) := by
  obtain ⟨lexeme, hdecimal, heq⟩ := hraw
  rw [← heq] at hdecimal
  have hread := readDouble_eq_none_iff hdecimal
  simp only [Arguments.double, Arguments.text, h, bind, Except.bind]
  cases hvalue : readDouble raw.toList with
  | some x =>
    refine .value ?_
    rintro (_ | _ | _ | ⟨-, hforeign⟩)
    rw [hread.mpr hforeign] at hvalue
    cases hvalue
  | none => exact .complaint (.timing rfl (hread.mp hvalue)) (by simp)

/-- A step that is built from what an argument is read as. -/
theorem Reads.outcome {d : Definition} {a : Arguments} {α : Type} {refused : Prop}
    {result : Except StepError α} (h : Reads a refused result) (hheaders : d.predicate ≠ "headers")
    (hrefused : d.Refuses a.captured ↔ refused) (make : α → Step) :
    Outcome d a (result >>= fun x => .ok (make x)) := by
  have htable := not_lacksTable hheaders a.table
  cases h with
  | value h => exact .built htable (hrefused.not.mpr h)
  | complaint h hcause => exact .refused htable (hrefused.mpr h) hcause

theorem not_unconvertible_string {predicate raw : String} :
    ¬ Unconvertible predicate .string raw := by
  rintro ⟨⟩

theorem settles_whole {e : Expression} {predicate : String} {n : Nat} (make : Fin (n + 1) → Step)
    (he : e.parameters = [.int]) (hn : limit predicate = n) (hheaders : predicate ≠ "headers") :
    Settles ⟨e, predicate, fun a => a.nat n 0 >>= fun i => .ok (make i)⟩ := by
  rintro ⟨step, captured, table⟩ h
  rw [he] at h
  obtain ⟨raw, _, hraw, ⟨⟩, rfl⟩ := List.forall₂_cons_left_iff.mp h
  refine (reads_nat hn rfl hraw).outcome hheaders ?_ make
  simp [Definition.Refuses, he]

theorem settles_text_and_whole {e : Expression} {predicate : String} {n : Nat}
    (make : String → Fin (n + 1) → Step) (he : e.parameters = [.string, .int])
    (hn : limit predicate = n) (hheaders : predicate ≠ "headers") :
    Settles ⟨e, predicate, fun a => a.text 0 >>= fun t => a.nat n 1 >>= fun i => .ok (make t i)⟩ := by
  rintro ⟨step, captured, table⟩ h
  rw [he] at h
  obtain ⟨t, _, -, hrest, rfl⟩ := List.forall₂_cons_left_iff.mp h
  obtain ⟨raw, _, hraw, ⟨⟩, rfl⟩ := List.forall₂_cons_left_iff.mp hrest
  have hread : Reads ⟨step, [t, raw], table⟩ _ (Arguments.nat ⟨step, [t, raw], table⟩ n 1) :=
    reads_nat hn rfl hraw
  refine hread.outcome hheaders ?_ (make t)
  simp [Definition.Refuses, he, or_and_right, exists_or, not_unconvertible_string]

theorem settles_timing : Settles timing := by
  rintro ⟨step, captured, table⟩ h
  obtain ⟨raw, _, hraw, ⟨⟩, rfl⟩ := List.forall₂_cons_left_iff.mp h
  refine (reads_double rfl hraw).outcome (by decide) ?_ .httpTiming
  simp [Definition.Refuses, timing, Expression.parameters, lit, float]

theorem settles_table {e : Expression} (he : e.parameters = []) :
    Settles ⟨e, "headers", fun a => a.needTable >>= fun t => .ok (.headers t)⟩ := by
  rintro ⟨step, captured, table⟩ -
  have hfit : ¬ Definition.Refuses
      ⟨e, "headers", fun a => a.needTable >>= fun t => .ok (.headers t)⟩ captured := by
    simp [Definition.Refuses, he]
  cases table with
  | none => exact .noTable ⟨rfl, rfl⟩ hfit
  | some t => exact .built (by simp [Definition.LacksTable]) hfit

/-- Every definition of the catalog. -/
theorem settles_definitions : ∀ d ∈ definitions, Settles d := by
  simp only [definitions, List.forall_mem_cons, List.not_mem_nil, false_implies, implies_true]
  and_intros
  -- A step is built from texts, from none, from a number or from the table.
  all_goals first
    | trivial
    | exact settles_of_texts (by decide) (by decide) fun _ => exists_ofText _
    | exact settles_of_texts (by decide) (by decide) fun _ => exists_ofTexts _
    | exact settles_of_texts (by decide) (by decide) fun _ _ => ⟨_, rfl⟩
    | exact settles_whole _ rfl (by decide) (by decide)
    | exact settles_text_and_whole _ rfl (by decide) (by decide)
    | exact settles_table rfl
    | exact settles_timing

/-! ### Parsing -/

/-- The definition matches the text, with the arguments that it captures. -/
def Matches (d : Definition) (arguments : List String) (cs : List Char) : Prop :=
  d ∈ definitions ∧ arguments ∈ solutions d.expression cs

theorem matches_iff {d : Definition} {arguments : List String} {cs : List Char} :
    Matches d arguments cs ↔ match? definitions cs = some (d, arguments) := by
  rw [unambiguous_definitions.match?_eq_some, Matches, mem_solutions]

theorem Matches.unique {d d' : Definition} {arguments arguments' : List String} {cs : List Char}
    (h : Matches d arguments cs) (h' : Matches d' arguments' cs) :
    d' = d ∧ arguments' = arguments := by
  rw [matches_iff] at h h'
  exact Prod.mk.inj (Option.some.inj (h'.symm.trans h))

/-- What holds of the match holds of all matches. -/
theorem Matches.exists_iff {d : Definition} {arguments : List String} {cs : List Char}
    (h : Matches d arguments cs) {holds : Definition → List String → Prop} :
    (∃ d' arguments', Matches d' arguments' cs ∧ holds d' arguments') ↔ holds d arguments := by
  constructor
  · rintro ⟨d', arguments', h', hholds⟩
    obtain ⟨rfl, rfl⟩ := h.unique h'
    exact hholds
  · intro hholds
    exact ⟨d, arguments, h, hholds⟩

theorem parse_of_matches {s : String} {d : Definition} {arguments : List String}
    (h : Matches d arguments (stripKeyword (Text.trim s.toList))) (table : Option DataTable) :
    parse s table =
      d.build ⟨String.ofList (stripKeyword (Text.trim s.toList)), arguments, table⟩ := by
  simp only [parse, parseWith, matches_iff.mp h]

theorem parse_of_not_matches {s : String}
    (h : ¬ ∃ d arguments, Matches d arguments (stripKeyword (Text.trim s.toList)))
    (table : Option DataTable) :
    parse s table =
      .error (.unknownStep (String.ofList (stripKeyword (Text.trim s.toList)))) := by
  have hnone : match? definitions (stripKeyword (Text.trim s.toList)) = none := by
    rw [Option.eq_none_iff_forall_ne_some]
    rintro ⟨d, arguments⟩ hmatch
    exact h ⟨d, arguments, matches_iff.mpr hmatch⟩
  simp only [parse, parseWith, hnone]

theorem Matches.outcome {d : Definition} {arguments : List String} {cs : List Char}
    (h : Matches d arguments cs) (step : String) (table : Option DataTable) :
    Outcome d ⟨step, arguments, table⟩ (d.build ⟨step, arguments, table⟩) :=
  settles_definitions d h.1 _ (captures_of_spelled (mem_solutions.mp h.2))

/-- **What parsing a text comes to**, where `cs` is the text without blank ends and keyword.  A text
that no definition matches is unknown, and `cs` is reported.  A table is missing exactly if the
definition of the headers matches and there is none.  An argument is invalid exactly if it is a whole
number with a minus sign, with a digit of another script or beyond the limit, or a bound on the response
time with a digit of another script.  In every other case there is a step.  A definition that matches is
given one argument for each of its parameters, in their order, whichever of their groups capture
nothing; so none is ever missing, and the step has the name that the definition gives. -/
theorem parse_outcome (s : String) (table : Option DataTable) :
    let cs := stripKeyword (Text.trim s.toList)
    (∀ text, parse s table = .error (.unknownStep text) ↔
      text = String.ofList cs ∧ ¬ ∃ d arguments, Matches d arguments cs) ∧
    (∀ text, parse s table = .error (.missingTable text) ↔
      text = String.ofList cs ∧ ∃ d arguments, Matches d arguments cs ∧ d.LacksTable table) ∧
    ((∃ text cause, parse s table = .error (.invalidArgument text cause)) ↔
      ∃ d arguments, Matches d arguments cs ∧ d.Refuses arguments) ∧
    ((∃ step, parse s table = .ok step) ↔
      (∃ d arguments, Matches d arguments cs) ∧
        (¬ ∃ d arguments, Matches d arguments cs ∧ d.LacksTable table) ∧
        ¬ ∃ d arguments, Matches d arguments cs ∧ d.Refuses arguments) ∧
    (∀ d arguments, Matches d arguments cs →
      parse s table = d.build ⟨String.ofList cs, arguments, table⟩ ∧
      List.Forall₂ Parameter.Captures d.expression.parameters arguments ∧
      (∃ groups, Grouped (symbols d.expression) groups cs) ∧
      (∀ groups, Grouped (symbols d.expression) groups cs → groups.reduceOption = arguments) ∧
      ∀ step, parse s table = .ok step → step.name = d.predicate) ∧
    ∀ text index, parse s table ≠ .error (.invalidArgument text (.missing index)) := by
  intro cs
  -- Only one definition matches, so that what holds of its outcome is all there is to say.
  by_cases hknown : ∃ d arguments, Matches d arguments cs
  · obtain ⟨d, arguments, h⟩ := hknown
    have hparse := parse_of_matches h table
    have houtcome := h.outcome (String.ofList cs) table
    rw [← hparse] at houtcome
    have hmatches : ∃ d arguments, Matches d arguments cs := ⟨d, arguments, h⟩
    refine ⟨fun text => ?_, fun text => ?_, ?_, ?_, fun d' arguments' h' => ?_,
      houtcome.ne_missing⟩
    · simp [houtcome.ne_unknownStep, hmatches]
    · rw [houtcome.eq_missingTable_iff, h.exists_iff]
    · rw [houtcome.exists_invalidArgument_iff, h.exists_iff]
    · rw [houtcome.exists_ok_iff, h.exists_iff, h.exists_iff, and_iff_right hmatches]
    · obtain ⟨rfl, rfl⟩ := h.unique h'
      have hspelled := mem_solutions.mp h.2
      obtain ⟨groups, hgroups, -⟩ := spelled_iff_grouped.mp hspelled
      refine ⟨hparse, captures_of_spelled hspelled, ⟨groups, hgroups⟩, fun groups' hgroups' => ?_,
        fun step hstep => builds_definitions _ h.1 _ step (hparse.symm.trans hstep)⟩
      exact (h.unique ⟨h.1, mem_solutions.mpr (spelled_iff_grouped.mpr ⟨_, hgroups', rfl⟩)⟩).2
  · rw [parse_of_not_matches hknown table]
    have hnone : ∀ d arguments, ¬ Matches d arguments cs :=
      fun d arguments h => hknown ⟨d, arguments, h⟩
    simp [hnone, cs, eq_comm]

end ApiCheck.Step
