import ApiCheck.Proofs.Number.Overflow
import ApiCheck.Proofs.Step.Wording

/-!
# Steps as data

The tag of a step in JSON is the name of its predicate (`tag_eq_name`).  A step that is written as JSON
reads back as itself, whatever its arguments are (`ofJson?_toJson`).  The one exception is a bound on
the response time that is no finite double: JSON has no number for it, `null` stands in its place, and
`null` is no bound (`ofJson?_toJson_of_infinite`).

Such a step is parsed, since the catalog reads a decimal of any length.  The texts from which it is
parsed are those whose decimal overflows (`parse_of_overflows`, `exists_finite_of_parse`); every
other step that is parsed can be declared as data (`parse_toJson`).
-/

namespace ApiCheck.Step

open Catalog

/-! ### Writing and reading -/

/-- The tag of a step, which is made of its variant, is the name of its predicate. -/
theorem tag_eq_name (s : Step) : s.tag = s.name := by
  -- Once the variant is known, both are fixed texts.
  cases s <;> simp only [tag, variant, name] <;> decide +kernel

/-- The arguments of a step have names of their own, none of them that of the tag. -/
theorem nodup_members (s : Step) :
    (Fields.keys (("predicate", Json.string s.tag) :: s.arguments)).Nodup := by
  cases s <;> simp [Fields.keys, arguments]

theorem member?_toJson {s : Step} {key : String} {v : Json}
    (h : (key, v) ∈ ("predicate", .string s.tag) :: s.arguments) :
    s.toJson.member? key = some v :=
  Fields.get?_insertAll_of_mem s.nodup_members h

theorem member?_predicate (s : Step) : s.toJson.member? "predicate" = some (.string s.name) := by
  rw [← tag_eq_name]
  exact member?_toJson List.mem_cons_self

/-- The name of the predicate decides how the arguments are read. -/
theorem ofJson?_toJson_eq (s : Step) : ofJson? s.toJson = ofParts? s.name s.toJson := by
  have hpredicate := s.member?_predicate
  rw [toJson, Json.ofFields, Json.member?] at hpredicate
  rw [toJson, Json.ofFields, ofJson?, hpredicate]

theorem unary?_object {α : Type} {members : Fields Json} {first : String}
    {decode : Json → Option α} {make : α → Step} :
    unary? (.object members) first decode make = ((members.get? first).bind decode).map make := by
  show ((members.get? first).bind decode).bind (fun x => some (make x)) = _
  exact Option.map_eq_bind.symm

theorem binary?_object {α β : Type} {members : Fields Json} {first second : String}
    {decode : Json → Option α} {decode' : Json → Option β} {make : α → β → Step} :
    binary? (.object members) first decode second decode' make =
      ((members.get? first).bind decode).bind fun x =>
        ((members.get? second).bind decode').map (make x) := by
  show ((members.get? first).bind decode).bind (fun x =>
    ((members.get? second).bind decode').bind fun y => some (make x y)) = _
  exact Option.bind_congr fun x _ => Option.map_eq_bind.symm

theorem unary?_toJson {α : Type} {s : Step} {first : String} {v : Json}
    {decode : Json → Option α} {make : α → Step} (h : (first, v) ∈ s.arguments) :
    unary? s.toJson first decode make = (decode v).map make := by
  have hfirst := member?_toJson (List.mem_cons_of_mem _ h)
  rw [toJson, Json.ofFields, Json.member?] at hfirst
  rw [toJson, Json.ofFields, unary?_object, hfirst, Option.bind_some]

theorem binary?_toJson {α β : Type} {s : Step} {first second : String} {v w : Json}
    {decode : Json → Option α} {decode' : Json → Option β} {make : α → β → Step}
    (h : (first, v) ∈ s.arguments) (h' : (second, w) ∈ s.arguments) :
    binary? s.toJson first decode second decode' make =
      (decode v).bind fun x => (decode' w).map (make x) := by
  have hfirst := member?_toJson (List.mem_cons_of_mem _ h)
  have hsecond := member?_toJson (List.mem_cons_of_mem _ h')
  rw [toJson, Json.ofFields, Json.member?] at hfirst hsecond
  rw [toJson, Json.ofFields, binary?_object, hfirst, hsecond, Option.bind_some, Option.bind_some]

theorem fin?_ofNat {n : Nat} (i : Fin n) : fin? n (.ofNat i) = some i := by
  have hrange : 0 ≤ (i : Int) ∧ (i : Int).toNat < n := ⟨by omega, by omega⟩
  simp [fin?, Json.ofNat, hrange]

/-- A list is read back if each of its items is. -/
theorem listOf?_map {α : Type} {decode : Json → Option α} {encode : α → Json} {xs : List α}
    (h : ∀ x ∈ xs, decode (encode x) = some x) :
    Json.listOf? decode (.array (xs.map encode)) = some xs := by
  show (xs.map encode).mapM decode = some xs
  induction xs with
  | nil => rfl
  | cons x xs ih =>
    obtain ⟨hx, hxs⟩ := List.forall_mem_cons.mp h
    rw [List.map_cons, List.mapM_cons, hx, ih hxs]
    rfl

theorem ofJson?_table (t : DataTable) : DataTable.ofJson? t.toJson = some t := by
  have hrow : ∀ row : List String, Json.listOf? Json.string? (Json.ofStrings row) = some row :=
    fun row => listOf?_map fun _ _ => rfl
  rw [DataTable.ofJson?, DataTable.toJson, listOf?_map fun row _ => hrow row]
  rfl

/-- Every step but one without a finite bound is read back from its JSON. -/
theorem ofJson?_toJson {s : Step}
    (h : ∀ maxMs, s = .httpTiming maxMs → ∃ x, maxMs = .finite x) : ofJson? s.toJson = some s := by
  rw [ofJson?_toJson_eq]
  cases s with
  | httpCode expected =>
    refine (unary?_toJson List.mem_cons_self).trans ?_
    rw [fin?_ofNat, Option.map_some]
  | httpTiming maxMs =>
    -- A finite bound is a number, which is read as the double that it is.
    obtain ⟨x, rfl⟩ := h maxMs rfl
    refine (unary?_toJson List.mem_cons_self).trans ?_
    rfl
  | headers t =>
    refine (unary?_toJson List.mem_cons_self).trans ?_
    rw [ofJson?_table, Option.map_some]
  | shouldBeArraySize size =>
    refine (unary?_toJson List.mem_cons_self).trans ?_
    rw [fin?_ofNat, Option.map_some]
  | shouldBeAnArrayOfXItems path size =>
    refine (binary?_toJson List.mem_cons_self (List.mem_cons_of_mem _ List.mem_cons_self)).trans ?_
    rw [fin?_ofNat]
    rfl
  | shouldBeEmptyArrayResponse | shouldNotBeEmptyArrayResponse | shouldBeEmptyResponse => rfl
  | headerValueExist | headerValueNotExist | shouldBeTrue | shouldBeFalse | shouldBeNull
  | shouldBeEmpty | shouldNotBeNull | shouldBeAnArray | shouldBeNow =>
    exact (unary?_toJson List.mem_cons_self).trans rfl
  | headerValueEqual | shouldBeNumber | shouldBeString | shouldMatch | addHeaderPropertyToDataset
  | addBodyPropertyToDataset =>
    exact (binary?_toJson List.mem_cons_self (List.mem_cons_of_mem _ List.mem_cons_self)).trans rfl

/-- `null` stands for a bound that is no finite double, and is no bound. -/
theorem ofJson?_toJson_of_infinite (negative : Bool) :
    ofJson? (httpTiming (.infinite negative)).toJson = none := by
  rw [ofJson?_toJson_eq]
  refine (unary?_toJson (v := .null) List.mem_cons_self).trans ?_
  rfl

/-! ### Decimals that are captured -/

/-- A decimal digit of any script has no lower case. -/
theorem toLower_of_isDecimalDigit {c : Char} (h : Text.isDecimalDigit c = true) :
    c.toLower = c := by
  obtain ⟨first, hfirst, hrange⟩ := List.any_eq_true.mp h
  have hzeros : ∀ first ∈ Text.decimalZeros, first + 10 ≤ 65 ∨ 90 < first := by decide
  have hzero := hzeros first hfirst
  simp only [Bool.and_eq_true, decide_eq_true_eq] at hrange
  refine dif_neg ?_
  rintro ⟨hlow, hhigh⟩
  have hlow' : 65 ≤ c.toNat := hlow
  have hhigh' : c.toNat ≤ 90 := hhigh
  omega

/-- Digits of any script around points have a magnitude only if they are in positional notation. -/
theorem positional_of_readMagnitude? {body : List Char} {negative : Bool} {x : Double}
    (hbody : ∀ c ∈ body, c = '.' ∨ Text.isDecimalDigit c = true) (hlast : body.getLast? ≠ some '.')
    (hx : readMagnitude? negative body = some x) :
    ∃ digits exponent, Positional body digits exponent ∧
      x = .ofDecimal negative digits exponent := by
  -- There is no letter, so that the body is no word and has no exponent.
  have hword : ∀ c ∈ body, c.toLower ≠ 'n' := by
    intro c hc hn
    rcases hbody c hc with rfl | hdigit
    · exact absurd hn (by decide)
    · rw [toLower_of_isDecimalDigit hdigit] at hn
      exact absurd (hn ▸ hdigit) (by decide)
  have hmark : ∀ c ∈ body, c ≠ 'e' ∧ c ≠ 'E' := by
    intro c hc
    constructor
    · rintro rfl
      exact absurd (hbody 'e' hc) (by decide)
    · rintro rfl
      exact absurd (hbody 'E' hc) (by decide)
  rw [readMagnitude?_of_wordless hword, Option.map_eq_some_iff] at hx
  obtain ⟨⟨digits, exponent⟩, hdecimal, rfl⟩ := hx
  exact ⟨digits, exponent, positional_of_readDecimal? hdecimal hmark hlast, rfl⟩

/-- Of the decimals that a parameter captures, those in positional notation are read as a double, and
no others: the digits must be ASCII digits. -/
theorem signed_of_readDouble {cs : List Char} {x : Double} (h : Parameter.DecimalNumber cs)
    (hx : readDouble cs = some x) :
    ∃ negative digits exponent, Signed cs negative digits exponent ∧
      x = .ofDecimal negative digits exponent := by
  obtain ⟨sign, whole, point, fraction, hsign, hwhole, hpoint, hne, hfraction, rfl⟩ := h
  have hbody : ∀ c ∈ whole ++ point ++ fraction, c = '.' ∨ Text.isDecimalDigit c = true := by
    intro c hc
    rcases List.mem_append.mp hc with hc | hc
    · rcases List.mem_append.mp hc with hc | hc
      · exact .inr (hwhole c hc)
      · rcases hpoint with rfl | rfl
        · cases hc
        · exact .inl (List.mem_singleton.mp hc)
    · exact .inr (hfraction c hc)
  have hlast : (whole ++ point ++ fraction).getLast? ≠ some '.' := by
    rw [List.getLast?_append_of_ne_nil _ hne]
    intro hlast
    have hdigit := hfraction '.' (List.mem_of_getLast? hlast)
    rw [Parameter.isDecimalDigit_point] at hdigit
    cases hdigit
  rw [List.append_assoc, List.append_assoc, ← List.append_assoc whole] at hx ⊢
  generalize whole ++ point ++ fraction = body at *
  rcases hsign with rfl | rfl
  · have hfirst : readDouble body = readMagnitude? false body := by
      unfold readDouble
      split
      · cases (hbody '-' List.mem_cons_self).resolve_left (by decide)
      · cases (hbody '+' List.mem_cons_self).resolve_left (by decide)
      · rfl
    rw [List.nil_append, hfirst] at hx
    obtain ⟨digits, exponent, hpositional, rfl⟩ := positional_of_readMagnitude? hbody hlast hx
    exact ⟨false, digits, exponent, .plain hpositional, rfl⟩
  · obtain ⟨digits, exponent, hpositional, rfl⟩ := positional_of_readMagnitude? hbody hlast hx
    exact ⟨true, digits, exponent, .minus hpositional, rfl⟩

/-! ### Bounds that are parsed -/

/-- All steps that are built are of one predicate. -/
def Builds (build : Arguments → Except StepError Step) (predicate : String) : Prop :=
  ∀ a s, build a = .ok s → s.name = predicate

theorem Builds.of_step {s : Step} : Builds (fun _ => .ok s) s.name := by
  intro a s' h
  obtain rfl := Except.ok.inj h
  rfl

theorem Builds.bind {α : Type} {predicate : String} {read : Arguments → Except StepError α}
    {build : α → Arguments → Except StepError Step} (h : ∀ x, Builds (build x) predicate) :
    Builds (fun a => read a >>= fun x => build x a) predicate := by
  intro a s hs
  obtain ⟨x, -, hx⟩ := bind_eq_ok.mp hs
  exact h x a s hx

/-- Every definition builds steps of the predicate that it names. -/
theorem builds_definitions : ∀ d ∈ definitions, Builds d.build d.predicate := by
  simp only [definitions, List.forall_mem_cons, List.not_mem_nil, false_implies, implies_true]
  and_intros
  -- A step is built from no argument, from one or from two.
  all_goals first
    | trivial
    | exact .of_step
    | exact .bind fun _ => .of_step
    | exact .bind fun _ => .bind fun _ => .of_step

/-- The definition of the steps with a bound on the response time. -/
def timing : Definition :=
  ⟨[lit "the response time should be lower than ", float, lit " ms"], "httpTiming",
    fun a => return .httpTiming (← a.double 0)⟩

theorem mem_timing : timing ∈ definitions :=
  List.mem_cons_of_mem _ List.mem_cons_self

theorem eq_timing : ∀ d ∈ definitions, d.predicate = "httpTiming" → d = timing := by
  simp only [definitions, List.forall_mem_cons, List.not_mem_nil, false_implies, implies_true]
  and_intros
  all_goals first
    | trivial
    | exact fun h => absurd h (by decide)
    | exact fun _ => rfl

/-- A step with a bound on the response time as it is written. -/
def timingText (decimal : List Char) : List Char :=
  "the response time should be lower than ".toList ++ (decimal ++ " ms".toList)

theorem spelled_chars {lead : List Char} {arguments : List String} {cs : List Char} :
    Spelled (lead.map .char) arguments cs ↔ arguments = [] ∧ cs = lead := by
  have hlead := @spelled_text lead [] arguments cs
  rw [List.append_nil] at hlead
  rw [hlead]
  constructor
  · rintro ⟨_, rfl, hend⟩
    cases hend
    exact ⟨rfl, List.append_nil lead⟩
  · rintro ⟨rfl, rfl⟩
    exact ⟨[], (List.append_nil _).symm, .nil⟩

theorem spelled_timing {arguments : List String} {cs : List Char} :
    Spelled (symbols timing.expression) arguments cs ↔ ∃ decimal,
      Parameter.DecimalNumber decimal ∧ arguments = [String.ofList decimal] ∧
        cs = timingText decimal := by
  have hsymbols : symbols timing.expression =
      "the response time should be lower than ".toList.map .char ++
        (.parameter .float :: " ms".toList.map .char) := rfl
  rw [hsymbols, spelled_text]
  constructor
  · rintro ⟨rest, rfl, hrest⟩
    obtain ⟨decimal, argument, _, _, ⟨hdecimal, rfl⟩, hend, rfl, rfl⟩ := spelled_parameter.mp hrest
    obtain ⟨rfl, rfl⟩ := spelled_chars.mp hend
    exact ⟨_, hdecimal, by rw [String.ofList_toList], rfl⟩
  · rintro ⟨decimal, hdecimal, rfl, rfl⟩
    refine ⟨decimal ++ " ms".toList, rfl, spelled_parameter.mpr ?_⟩
    exact ⟨decimal, _, [], _, ⟨hdecimal, String.toList_ofList⟩, spelled_chars.mpr ⟨rfl, rfl⟩, rfl, rfl⟩

theorem double_eq_ok {text : String} {decimal : List Char} {table : Option DataTable} {x : Double} :
    Arguments.double ⟨text, [String.ofList decimal], table⟩ 0 = .ok x ↔
      readDouble decimal = some x := by
  simp only [Arguments.double, Arguments.text, List.getElem?_cons_zero, bind, Except.bind,
    String.toList_ofList]
  cases readDouble decimal with
  | none => simp
  | some y => simp

/-- Which texts are parsed as a step with a bound on the response time. -/
theorem parse_httpTiming_iff {text : String} {table : Option DataTable} {x : Double} :
    parse text table = .ok (.httpTiming x) ↔ ∃ decimal,
      stripKeyword (Text.trim text.toList) = timingText decimal ∧
        Parameter.DecimalNumber decimal ∧ readDouble decimal = some x := by
  rw [parse_eq_ok_iff]
  constructor
  · rintro ⟨d, hd, arguments, hspelled, hbuild⟩
    obtain rfl := eq_timing d hd (builds_definitions d hd _ _ hbuild).symm
    obtain ⟨decimal, hdecimal, rfl, hcs⟩ := spelled_timing.mp hspelled
    obtain ⟨y, hy, hstep⟩ := bind_eq_ok.mp hbuild
    obtain rfl := Step.httpTiming.inj (Except.ok.inj hstep)
    exact ⟨decimal, hcs, hdecimal, double_eq_ok.mp hy⟩
  · rintro ⟨decimal, hcs, hdecimal, hread⟩
    exact ⟨timing, mem_timing, _, spelled_timing.mpr ⟨decimal, hdecimal, rfl, hcs⟩,
      bind_eq_ok.mpr ⟨x, double_eq_ok.mpr hread, rfl⟩⟩

/-- The text bounds the response time by a decimal that is rounded beyond the finite doubles. -/
def Overflows (text : String) : Prop :=
  ∃ decimal negative digits exponent,
    stripKeyword (Text.trim text.toList) = timingText decimal ∧
      Signed decimal negative digits exponent ∧
        Double.overflow ≤ (digits : ℚ) * 10 ^ exponent

/-- A bound that overflows is parsed as an infinite one. -/
theorem parse_of_overflows {text : String} (h : Overflows text) (table : Option DataTable) :
    ∃ negative, parse text table = .ok (.httpTiming (.infinite negative)) := by
  obtain ⟨decimal, negative, digits, exponent, htext, hsigned, hoverflow⟩ := h
  refine ⟨negative, parse_httpTiming_iff.mpr ⟨decimal, htext, decimalNumber_of_signed hsigned, ?_⟩⟩
  rw [hsigned.readDouble_eq, Double.ofDecimal_eq_infinite_iff.mpr hoverflow]

/-- Every other bound is finite. -/
theorem exists_finite_of_parse {text : String} {table : Option DataTable} {x : Double}
    (h : parse text table = .ok (.httpTiming x)) (hnot : ¬ Overflows text) :
    ∃ y, x = .finite y := by
  obtain ⟨decimal, htext, hdecimal, hread⟩ := parse_httpTiming_iff.mp h
  obtain ⟨negative, digits, exponent, hsigned, rfl⟩ := signed_of_readDouble hdecimal hread
  refine Double.ofDecimal_eq_finite_iff.mpr (not_le.mp fun hoverflow => hnot ?_)
  exact ⟨decimal, negative, digits, exponent, htext, hsigned, hoverflow⟩

/-- **Steps as data**: the JSON of every step that is parsed names its predicate.  It reads back as
the step, unless the text bounds the response time by a decimal that overflows: such a text is parsed
as well, and the JSON of its step reads as none. -/
theorem parse_toJson (text : String) (table : Option DataTable) :
    (∀ s, parse text table = .ok s →
      s.toJson.member? "predicate" = some (.string s.name) ∧
      (¬ Overflows text → ofJson? s.toJson = some s) ∧
      (Overflows text → ofJson? s.toJson = none)) ∧
    (Overflows text → ∃ negative, parse text table = .ok (.httpTiming (.infinite negative))) := by
  refine ⟨fun s h => ⟨s.member?_predicate, fun hnot => ?_, fun hoverflow => ?_⟩,
    fun hoverflow => parse_of_overflows hoverflow table⟩
  · refine ofJson?_toJson fun maxMs hs => ?_
    exact exists_finite_of_parse (hs ▸ h) hnot
  · obtain ⟨negative, hparse⟩ := parse_of_overflows hoverflow table
    obtain rfl := Except.ok.inj (h.symm.trans hparse)
    exact ofJson?_toJson_of_infinite negative

/-- The digits of `10 ^ n`. -/
def powerOfTen (n : Nat) : List Char :=
  '1' :: List.replicate n '0'

theorem signed_powerOfTen (n : Nat) : Signed (powerOfTen n) false (10 ^ n) 0 := by
  have hdigits : ∀ c ∈ powerOfTen n, c.isDigit = true := by
    refine List.forall_mem_cons.mpr ⟨rfl, fun c hc => ?_⟩
    rw [List.eq_of_mem_replicate hc]
    rfl
  have hvalue : Nat.ofDigitChars 10 (powerOfTen n) 0 = 10 ^ n := by
    rw [powerOfTen, Nat.ofDigitChars_cons, Nat.ofDigitChars_replicate_zero]
    exact Nat.mul_one _
  exact hvalue ▸ .plain (.whole (List.cons_ne_nil _ _) hdigits)

/-- The powers of ten that overflow, written as a bound. -/
theorem overflows_powerOfTen {n : Nat} (h : 309 ≤ n) :
    Overflows (String.ofList (timingText (powerOfTen n))) := by
  have hsigned := signed_powerOfTen n
  have hspelled := spelled_timing.mpr ⟨_, decimalNumber_of_signed hsigned, rfl, rfl⟩
  refine ⟨_, _, _, _, ?_, hsigned, ?_⟩
  · rw [String.toList_ofList]
    exact bare_of_spelled mem_timing hspelled
  · calc Double.overflow ≤ 10 ^ (309 : ℤ) := Double.overflow_lt_ten_pow.le
      _ ≤ 10 ^ (n : ℤ) := zpow_le_zpow_right₀ (by norm_num) (by omega)
      _ = ((10 ^ n : ℕ) : ℚ) * 10 ^ (0 : ℤ) := by
          rw [zpow_natCast, zpow_zero, mul_one, Nat.cast_pow, Nat.cast_ofNat]

/-- The step of a text with `10 ^ 309` for its bound is not read back from its JSON. -/
theorem exists_parsed_unread :
    ∃ negative, parse (String.ofList (timingText (powerOfTen 309))) none =
        .ok (.httpTiming (.infinite negative)) ∧
      ofJson? (httpTiming (.infinite negative)).toJson ≠ some (.httpTiming (.infinite negative)) := by
  obtain ⟨negative, hparse⟩ := parse_of_overflows (overflows_powerOfTen (le_refl 309)) none
  refine ⟨negative, hparse, ?_⟩
  rw [ofJson?_toJson_of_infinite]
  exact (Option.some_ne_none _).symm

end ApiCheck.Step
