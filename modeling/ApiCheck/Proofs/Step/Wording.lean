import ApiCheck.Proofs.Number.Reading
import ApiCheck.Proofs.Number.Shortest
import ApiCheck.Proofs.Step.Catalog
import ApiCheck.Proofs.Step.Plan

/-!
# Writing steps

A step is written as the catalog expression that leads to it, with its arguments for the parameters:
whole numbers and decimals as their digits, texts between quotes that they do not hold
(`Step.Written`).  Parsing gives the step back, whichever quotes are taken, and no step is parsed
that cannot be written.
-/

namespace ApiCheck.Step

open Catalog

/-! ### Arguments -/

/-- An argument of a step that stands in its text. -/
inductive Value where
  | whole (n : Nat)
  | decimal (x : Double)
  | text (s : String)

namespace Value

/-- The parameter that an argument stands for. -/
def parameter : Value → Parameter
  | .whole _ => .int
  | .decimal _ => .float
  | .text _ => .string

/-- What a parameter captures of an argument. -/
def captured : Value → String
  | .whole n => String.ofList (Nat.toDigits 10 n)
  | .decimal x => x.text
  | .text s => s

/-- The text that an argument is. -/
def text? : Value → Option String
  | .text s => some s
  | _ => none

/-- `cs` is an argument written out: the digits of a number, or a text between two quotes of a kind
that it does not hold. -/
inductive Written : (v : Value) → (cs : List Char) → Prop
  | whole (n : Nat) : Written (.whole n) (Nat.toDigits 10 n)
  | decimal (x : FiniteDouble) : Written (.decimal (.finite x)) x.chars
  | text {quote : Char} {s : String} (hquote : quote = '"' ∨ quote = '\'') (hs : quote ∉ s.toList) :
    Written (.text s) (quote :: (s.toList ++ [quote]))

end Value

/-- The arguments that stand in the text of a step; a table stands below it. -/
def values : Step → List Value
  | .httpCode expected => [.whole expected]
  | .httpTiming maxMs => [.decimal maxMs]
  | .headerValueExist name => [.text name]
  | .headerValueNotExist name => [.text name]
  | .headerValueEqual name expected => [.text name, .text expected]
  | .headers _ => []
  | .shouldBeEmptyArrayResponse => []
  | .shouldNotBeEmptyArrayResponse => []
  | .shouldBeEmptyResponse => []
  | .shouldBeNumber path expected => [.text path, .text expected]
  | .shouldBeTrue path => [.text path]
  | .shouldBeFalse path => [.text path]
  | .shouldBeNull path => [.text path]
  | .shouldBeString path expected => [.text path, .text expected]
  | .shouldBeEmpty path => [.text path]
  | .shouldNotBeNull path => [.text path]
  | .shouldBeArraySize size => [.whole size]
  | .shouldBeAnArray path => [.text path]
  | .shouldBeAnArrayOfXItems path size => [.text path, .whole size]
  | .shouldMatch path pattern => [.text path, .text pattern]
  | .shouldBeNow path => [.text path]
  | .addHeaderPropertyToDataset name key => [.text name, .text key]
  | .addBodyPropertyToDataset path key => [.text path, .text key]

/-- The texts among the arguments of a step. -/
def texts (s : Step) : List String :=
  s.values.filterMap Value.text?

/-! ### Writing -/

/-- The parameters of an expression, in their order. -/
def Expression.parameters (e : Expression) : List Parameter :=
  e.filterMap fun
    | .text _ => none
    | .parameter p => some p

/-- An expression with texts in place of its parameters. -/
def Expression.fill : Expression → List (List Char) → List Char
  | [], _ => []
  | .text cs :: e, lexemes => cs ++ fill e lexemes
  | .parameter _ :: e, lexemes => lexemes.headD [] ++ fill e lexemes.tail

/-- The definition with which a step is written: the last one that leads to it, so that a number
that is expected of a node stands between quotes. -/
def definition? (s : Step) : Option Definition :=
  definitions.reverse.find? fun d => d.predicate = s.name

example : (definition? (.shouldBeNumber "$.id" "7")).map (fun d => d.expression.text) =
    some "the response body at \x7bstring\x7d should equal the number \x7bstring\x7d" := rfl

/-- `text` is the step written out. -/
def Written (s : Step) (text : String) : Prop :=
  ∃ d lexemes, s.definition? = some d ∧ List.Forall₂ Value.Written s.values lexemes ∧
    text = String.ofList (d.expression.fill lexemes)

/-! ### What is captured -/

theorem digits_of_isDigit {cs : List Char} (h : ∀ c ∈ cs, c.isDigit = true) :
    Parameter.Digits cs :=
  fun c hc => isDecimalDigit_of_isDigit (h c hc)

theorem wholeNumber_toDigits (n : Nat) : Parameter.WholeNumber (Nat.toDigits 10 n) :=
  ⟨[], _, .inl rfl, Nat.toDigits_ne_nil, digits_of_isDigit isDigit_of_mem_toDigits, rfl⟩

/-- A decimal in positional notation is what a decimal parameter stands for. -/
theorem decimalNumber_of_signed {cs : List Char} {negative : Bool} {digits : Nat} {exponent : Int}
    (h : Signed cs negative digits exponent) : Parameter.DecimalNumber cs := by
  obtain ⟨sign, body, hsign, rfl, hbody⟩ : ∃ sign body, (sign = [] ∨ sign = ['-']) ∧
      cs = sign ++ body ∧ Positional body digits exponent := by
    cases h with
    | plain hbody => exact ⟨[], _, .inl rfl, rfl, hbody⟩
    | minus hbody => exact ⟨['-'], _, .inr rfl, rfl, hbody⟩
  clear h
  cases hbody with
  | whole hne h =>
    exact ⟨sign, [], [], body, hsign, (fun c hc => nomatch hc), .inl rfl, hne,
      digits_of_isDigit h, by simp⟩
  | @point whole fraction hne h =>
    obtain ⟨hwhole, hfraction⟩ := List.forall_mem_append.mp h
    exact ⟨sign, whole, ['.'], fraction, hsign, digits_of_isDigit hwhole, .inr rfl, hne,
      digits_of_isDigit hfraction, by simp⟩

theorem decimalNumber_chars (x : FiniteDouble) : Parameter.DecimalNumber x.chars := by
  obtain ⟨digits, exponent, hsigned, -⟩ := x.exists_signed
  exact decimalNumber_of_signed hsigned

/-- The parameter of an argument captures it where it is written out. -/
theorem Value.Written.writes {v : Value} {cs : List Char} (h : v.Written cs) :
    v.parameter.Writes cs v.captured.toList := by
  cases h with
  | whole n => exact ⟨wholeNumber_toDigits n, String.toList_ofList⟩
  | decimal x => exact ⟨decimalNumber_chars x, String.toList_ofList⟩
  | @text quote s hquote hs => exact ⟨quote, hquote, hs, rfl⟩

theorem spelled_fill {e : Expression} {vs : List Value} {lexemes : List (List Char)}
    (he : e.parameters = vs.map Value.parameter) (h : List.Forall₂ Value.Written vs lexemes) :
    Spelled (symbols e) (vs.map Value.captured) (e.fill lexemes) := by
  induction e generalizing vs lexemes with
  | nil =>
    obtain rfl : vs = [] := List.map_eq_nil_iff.mp he.symm
    exact .nil
  | cons part e ih =>
    cases part with
    | text cs =>
      show Spelled (cs.map .char ++ symbols e) _ _
      exact spelled_text.mpr ⟨_, rfl, ih he h⟩
    | parameter p =>
      cases h with
      | nil => exact nomatch he
      | cons hv h =>
        obtain ⟨rfl, hrest⟩ := List.cons.inj he
        exact .parameter hv.writes (ih hrest h)

/-! ### What is built -/

/-- A whole number is built from its digits. -/
theorem nat_toDigits {text : String} {captured : List String} {table : Option DataTable}
    {n index : Nat} (i : Fin (n + 1))
    (h : captured[index]? = some (String.ofList (Nat.toDigits 10 i))) :
    Arguments.nat ⟨text, captured, table⟩ n index = .ok i := by
  simp only [Arguments.nat, Arguments.text, h, bind, Except.bind, String.toList_ofList,
    readUnsigned_toDigits (Nat.le_of_lt_succ i.isLt), Fin.ofNat_val_eq_self]

/-- A decimal is built from its text. -/
theorem double_text {text : String} {captured : List String} {table : Option DataTable}
    {index : Nat} (x : FiniteDouble) (h : captured[index]? = some x.text) :
    Arguments.double ⟨text, captured, table⟩ index = .ok (.finite x) := by
  simp only [Arguments.double, Arguments.text, h, bind, Except.bind, FiniteDouble.text,
    String.toList_ofList, x.readDouble_chars]

/-- The definition with which a step is written takes its arguments, and builds the step from what
they are captured as. -/
theorem exists_definition (s : Step) :
    ∃ d, s.definition? = some d ∧ d.expression.parameters = s.values.map Value.parameter ∧
      ∀ (text : String) (table : Option DataTable),
        (∀ maxMs, s = .httpTiming maxMs → ∃ x, maxMs = .finite x) →
        (∀ t, s.table? = some t → table = some t) →
        d.build ⟨text, s.values.map Value.captured, table⟩ = .ok s := by
  cases s with
  | httpCode expected =>
    exact ⟨_, rfl, rfl, fun _ _ _ _ =>
      bind_eq_ok.mpr ⟨_, nat_toDigits (n := 65535) expected rfl, rfl⟩⟩
  | httpTiming maxMs =>
    refine ⟨_, rfl, rfl, fun text table hfinite _ => ?_⟩
    obtain ⟨x, rfl⟩ := hfinite maxMs rfl
    exact bind_eq_ok.mpr ⟨_, double_text x rfl, rfl⟩
  | headers t =>
    refine ⟨_, rfl, rfl, fun text table _ htable => ?_⟩
    rw [htable t rfl]
    rfl
  | shouldBeArraySize size =>
    exact ⟨_, rfl, rfl, fun _ _ _ _ =>
      bind_eq_ok.mpr ⟨_, nat_toDigits (n := 18446744073709551615) size rfl, rfl⟩⟩
  | shouldBeAnArrayOfXItems path size =>
    exact ⟨_, rfl, rfl, fun _ _ _ _ => bind_eq_ok.mpr ⟨path, rfl,
      bind_eq_ok.mpr ⟨_, nat_toDigits (n := 18446744073709551615) size rfl, rfl⟩⟩⟩
  | _ => exact ⟨_, rfl, rfl, fun _ _ _ _ => rfl⟩

theorem mem_definitions {s : Step} {d : Definition} (h : s.definition? = some d) :
    d ∈ definitions :=
  List.mem_reverse.mp (List.mem_of_find?_eq_some h)

/-- Parsing the text of a step gives the step. -/
theorem Written.parse_eq {s : Step} {text : String} (h : s.Written text) {table : Option DataTable}
    (hfinite : ∀ maxMs, s = .httpTiming maxMs → ∃ x, maxMs = .finite x)
    (htable : ∀ t, s.table? = some t → table = some t) : parse text table = .ok s := by
  obtain ⟨d, lexemes, hd, hlexemes, rfl⟩ := h
  obtain ⟨d', hd', hparameters, hbuild⟩ := s.exists_definition
  obtain rfl := Option.some.inj (hd.symm.trans hd')
  rw [parse_of_spelled (mem_definitions hd) (spelled_fill hparameters hlexemes)]
  exact hbuild _ table hfinite htable

theorem eq_httpTiming {s : Step} {x : Double} (h : .decimal x ∈ s.values) : s = .httpTiming x := by
  cases s <;> simp_all [values]

/-- A text without one of the quotes, and a finite bound, can be written. -/
theorem exists_written {s : Step} (htexts : ∀ t ∈ s.texts, '"' ∉ t.toList ∨ '\'' ∉ t.toList)
    (hfinite : ∀ maxMs, s = .httpTiming maxMs → ∃ x, maxMs = .finite x) :
    ∃ text, s.Written text := by
  have hvalue : ∀ v, v ∈ s.values → ∃ cs, v.Written cs := by
    intro v hv
    cases v with
    | whole n => exact ⟨_, .whole n⟩
    | decimal maxMs =>
      obtain ⟨x, rfl⟩ := hfinite maxMs (eq_httpTiming hv)
      exact ⟨_, .decimal x⟩
    | text t =>
      rcases htexts t (List.mem_filterMap.mpr ⟨_, hv, rfl⟩) with hdouble | hsingle
      · exact ⟨_, .text (.inl rfl) hdouble⟩
      · exact ⟨_, .text (.inr rfl) hsingle⟩
  choose! write hwrite using hvalue
  obtain ⟨d, hd, -⟩ := s.exists_definition
  exact ⟨_, d, s.values.map write, hd,
    List.forall₂_map_right_iff.mpr (List.forall₂_same.mpr hwrite), rfl⟩

/-! ### What is parsed -/

/-- What a parameter captures holds one of the quotes at most. -/
theorem Parameter.Writes.lacks_quote {p : Parameter} {lexeme argument : List Char}
    (h : p.Writes lexeme argument) : '"' ∉ argument ∨ '\'' ∉ argument := by
  by_cases hp : p = .string
  · subst hp
    obtain ⟨quote, rfl | rfl, hargument, -⟩ := h
    · exact .inl hargument
    · exact .inr hargument
  · obtain ⟨rfl, -, hnumber⟩ := h.number hp
    exact .inl fun hquote => absurd (hnumber _ hquote) (by decide)

theorem Spelled.lacks_quote {w : List Symbol} {arguments : List String} {cs : List Char}
    (h : Spelled w arguments cs) : ∀ a ∈ arguments, '"' ∉ a.toList ∨ '\'' ∉ a.toList := by
  induction h with
  | nil => exact fun a ha => nomatch ha
  | char c rest ih => exact ih
  | parameter first rest ih => exact List.forall_mem_cons.mpr ⟨first.lacks_quote, ih⟩

theorem mem_captured {a : Arguments} {index : Nat} {raw : String} (h : a.text index = .ok raw) :
    raw ∈ a.captured := by
  simp only [Arguments.text] at h
  split at h
  · next hraw =>
    obtain rfl := Except.ok.inj h
    exact List.mem_of_getElem? hraw
  · exact nomatch h

/-- The texts of every step that is built were captured. -/
def CapturesTexts (build : Arguments → Except StepError Step) : Prop :=
  ∀ a s, build a = .ok s → ∀ t ∈ s.texts, t ∈ a.captured

theorem capturesTexts_ofText (make : String → Step) (hmake : ∀ t, (make t).texts = [t]) :
    CapturesTexts (ofText make) := by
  intro a s h
  obtain ⟨t, ht, hs⟩ := bind_eq_ok.mp h
  obtain rfl := Except.ok.inj hs
  rw [hmake]
  exact List.forall_mem_singleton.mpr (mem_captured ht)

theorem capturesTexts_ofTexts (make : String → String → Step)
    (hmake : ∀ t t', (make t t').texts = [t, t']) : CapturesTexts (ofTexts make) := by
  intro a s h
  obtain ⟨t, ht, h⟩ := bind_eq_ok.mp h
  obtain ⟨t', ht', hs⟩ := bind_eq_ok.mp h
  obtain rfl := Except.ok.inj hs
  rw [hmake]
  exact List.forall_mem_cons.mpr ⟨mem_captured ht, List.forall_mem_singleton.mpr (mem_captured ht')⟩

theorem capturesTexts_of_textless (s : Step) (hs : s.texts = []) :
    CapturesTexts fun _ => .ok s := by
  intro a s' h
  obtain rfl := Except.ok.inj h
  rw [hs]
  exact fun t ht => nomatch ht

theorem capturesTexts_of_value {α : Type} (read : Arguments → Except StepError α) (make : α → Step)
    (hmake : ∀ x, (make x).texts = []) :
    CapturesTexts fun a => read a >>= fun x => .ok (make x) := by
  intro a s h
  obtain ⟨x, -, hs⟩ := bind_eq_ok.mp h
  exact capturesTexts_of_textless (make x) (hmake x) a s hs

theorem capturesTexts_of_text_and_value {α : Type} (read : Arguments → Except StepError α)
    (make : String → α → Step) (hmake : ∀ t x, (make t x).texts = [t]) :
    CapturesTexts fun a => a.text 0 >>= fun t => read a >>= fun x => .ok (make t x) := by
  intro a s h
  obtain ⟨t, ht, h⟩ := bind_eq_ok.mp h
  obtain ⟨x, -, hs⟩ := bind_eq_ok.mp h
  obtain rfl := Except.ok.inj hs
  rw [hmake]
  exact List.forall_mem_singleton.mpr (mem_captured ht)

theorem capturesTexts_definitions : ∀ d ∈ definitions, CapturesTexts d.build := by
  simp only [definitions, List.forall_mem_cons, List.not_mem_nil, false_implies, implies_true]
  and_intros
  -- One of the ways to build a step for each definition.
  all_goals first
    | exact capturesTexts_ofText _ fun _ => rfl
    | exact capturesTexts_ofTexts _ fun _ _ => rfl
    | exact capturesTexts_of_textless _ rfl
    | exact capturesTexts_of_value _ _ fun _ => rfl
    | exact capturesTexts_of_text_and_value _ _ fun _ _ => rfl
    | trivial

/-- **Steps and their texts**: a step whose texts each lack one of the quotes, and whose bound is
finite, can be written out, and however it is written, parsing gives it back; and no step is parsed
that has a text with both quotes. -/
theorem parse_written :
    (∀ s : Step, (∀ t ∈ s.texts, '"' ∉ t.toList ∨ '\'' ∉ t.toList) →
      (∀ maxMs, s = .httpTiming maxMs → ∃ x, maxMs = .finite x) →
      (∃ text, s.Written text) ∧
        ∀ text, s.Written text → ∀ table : Option DataTable,
          (∀ t, s.table? = some t → table = some t) → parse text table = .ok s) ∧
    (∀ (text : String) (table : Option DataTable) (s : Step), parse text table = .ok s →
      ∀ t ∈ s.texts, '"' ∉ t.toList ∨ '\'' ∉ t.toList) := by
  refine ⟨fun s htexts hfinite => ⟨exists_written htexts hfinite, fun text hwritten table htable =>
    hwritten.parse_eq hfinite htable⟩, fun text table s h => ?_⟩
  obtain ⟨d, hd, arguments, cs, hspelled, hbuild⟩ := spelled_of_parse h
  exact fun t ht => hspelled.lacks_quote t (capturesTexts_definitions d hd _ s hbuild t ht)

end ApiCheck.Step
