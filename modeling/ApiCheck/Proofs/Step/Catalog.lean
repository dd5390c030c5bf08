import ApiCheck.Step.Catalog
import ApiCheck.Proofs.Step.Expression
import ApiCheck.Proofs.Text.Blank

/-!
# The catalog is unambiguous

No text is spelled by two definitions of the catalog, nor by one of them with two lists of arguments
(`unambiguous_definitions`): any two of its expressions part at a place where their next characters
differ, and each of them shows where its parameters end.  The order of the definitions is therefore
of no account (`Unambiguous.match?_perm`).

A text that a definition spells has no blank ends and no leading keyword, so that parsing it builds
the step of that definition (`parse_of_spelled`); and every step that is parsed was built so
(`spelled_of_parse`).
-/

namespace ApiCheck.Step.Catalog

/-! ### Unambiguous definitions -/

/-- The expressions of any two definitions are apart, and each of them is delimited. -/
structure Unambiguous (ds : List Definition) : Prop where
  apart : ds.Pairwise fun d d' => apart (symbols d.expression) (symbols d'.expression) = true
  delimited : ∀ d ∈ ds, delimited (symbols d.expression) = true

variable {ds : List Definition} {d d' : Definition} {arguments arguments' : List String}
  {cs : List Char}

/-- A text is spelled by one of the definitions at most, with one list of arguments. -/
theorem Unambiguous.index_unique (h : Unambiguous ds) {i j : Nat} {hi : i < ds.length}
    {hj : j < ds.length} (hs : Spelled (symbols ds[i].expression) arguments cs)
    (hs' : Spelled (symbols ds[j].expression) arguments' cs) : i = j ∧ arguments = arguments' := by
  have hapart := List.pairwise_iff_getElem.mp h.apart
  rcases Nat.lt_trichotomy i j with hlt | rfl | hlt
  · exact (not_spelled_of_apart (hapart i j hi hj hlt) hs hs').elim
  · exact ⟨rfl, hs.arguments_unique (h.delimited _ (List.getElem_mem hi)) hs'⟩
  · exact (not_spelled_of_apart (hapart j i hj hi hlt) hs' hs).elim

theorem Unambiguous.unique (h : Unambiguous ds) (hd : d ∈ ds) (hd' : d' ∈ ds)
    (hs : Spelled (symbols d.expression) arguments cs)
    (hs' : Spelled (symbols d'.expression) arguments' cs) : d = d' ∧ arguments = arguments' := by
  obtain ⟨i, hi, rfl⟩ := List.getElem_of_mem hd
  obtain ⟨j, hj, rfl⟩ := List.getElem_of_mem hd'
  obtain ⟨rfl, harguments⟩ := h.index_unique hs hs'
  exact ⟨rfl, harguments⟩

theorem head?_solutions_eq_some (hd : delimited (symbols d.expression) = true) :
    (solutions d.expression cs).head? = some arguments ↔
      Spelled (symbols d.expression) arguments cs := by
  constructor
  · intro h
    exact mem_solutions.mp (List.mem_of_head? h)
  · intro h
    cases hsolutions : solutions d.expression cs with
    | nil => exact absurd (mem_solutions.mpr h) (by simp [hsolutions])
    | cons first rest =>
      have hfirst := mem_solutions.mp (hsolutions ▸ List.mem_cons_self)
      rw [List.head?_cons, h.arguments_unique hd hfirst]

theorem Unambiguous.spelled_of_match? (h : Unambiguous ds)
    (hmatch : match? ds cs = some (d, arguments)) :
    d ∈ ds ∧ Spelled (symbols d.expression) arguments cs := by
  obtain ⟨d', hd', hfirst⟩ := List.exists_of_findSome?_eq_some hmatch
  obtain ⟨captured, hcaptured, heq⟩ := Option.map_eq_some_iff.mp hfirst
  obtain ⟨rfl, rfl⟩ := Prod.mk.inj heq
  exact ⟨hd', (head?_solutions_eq_some (h.delimited d' hd')).mp hcaptured⟩

/-- Among unambiguous definitions a text matches the one that spells it. -/
theorem Unambiguous.match?_eq_some (h : Unambiguous ds) :
    match? ds cs = some (d, arguments) ↔
      d ∈ ds ∧ Spelled (symbols d.expression) arguments cs := by
  refine ⟨h.spelled_of_match?, fun ⟨hd, hs⟩ => ?_⟩
  cases hmatch : match? ds cs with
  | none =>
    have hnone := List.findSome?_eq_none_iff.mp hmatch d hd
    rw [(head?_solutions_eq_some (h.delimited d hd)).mpr hs] at hnone
    exact nomatch hnone
  | some first =>
    obtain ⟨d', arguments'⟩ := first
    obtain ⟨hd', hs'⟩ := h.spelled_of_match? hmatch
    obtain ⟨rfl, rfl⟩ := h.unique hd' hd hs' hs
    rfl

theorem Unambiguous.perm {ds' : List Definition} (h : Unambiguous ds) (hperm : ds'.Perm ds) :
    Unambiguous ds' where
  apart := (hperm.pairwise_iff fun {_ _} hapart => apart_comm _ _ ▸ hapart).mpr h.apart
  delimited d hd := h.delimited d (hperm.subset hd)

/-- The order of unambiguous definitions is of no account. -/
theorem Unambiguous.match?_perm {ds' : List Definition} (h : Unambiguous ds)
    (hperm : ds'.Perm ds) (cs : List Char) : match? ds' cs = match? ds cs := by
  refine Option.ext fun (d, arguments) => ?_
  rw [(h.perm hperm).match?_eq_some, h.match?_eq_some, hperm.mem_iff]

/-! ### The catalog -/

/-- The definitions of the catalog are unambiguous. -/
theorem unambiguous_definitions : Unambiguous definitions where
  apart := by decide +kernel
  delimited := by decide +kernel

/-- Whether a text that `w` spells starts with a character that is not blank and starts no keyword. -/
def begins : List Symbol → Bool
  | .char c :: _ => !Text.isBlank c && keywords.all fun keyword => keyword.toList.head? != some c
  | _ => false

/-- Whether a text that ends with the symbol ends with a character that is not blank. -/
def closes : Symbol → Bool
  | .char c => !Text.isBlank c
  | .parameter _ => true

/-- The symbols of every definition begin and close. -/
theorem begins_and_closes :
    ∀ d ∈ definitions, begins (symbols d.expression) = true ∧
      (symbols d.expression).getLast?.any closes = true := by
  decide +kernel

theorem getLast?_of_closes {w : List Symbol} (h : Spelled w arguments cs)
    (hlast : w.getLast?.any closes = true) :
    ∃ c, cs.getLast? = some c ∧ Text.isBlank c = false := by
  induction h with
  | nil => exact nomatch hlast
  | @char c w _ cs rest ih =>
    cases w with
    | nil =>
      cases rest
      exact ⟨c, rfl, by simpa [closes] using hlast⟩
    | cons symbol w =>
      obtain ⟨c', hc', hblank⟩ := ih hlast
      exact ⟨c', by rw [List.getLast?_cons, hc', Option.getD_some], hblank⟩
  | @parameter p lexeme _ w _ cs first rest ih =>
    cases w with
    | nil =>
      cases rest
      rw [List.append_nil]
      exact first.getLast?
    | cons symbol w =>
      obtain ⟨c', hc', hblank⟩ := ih hlast
      exact ⟨c', by rw [List.getLast?_append, hc', Option.some_or], hblank⟩

theorem head?_of_begins {w : List Symbol} (h : Spelled w arguments cs) (hfirst : begins w = true) :
    ∃ c, cs.head? = some c ∧ Text.isBlank c = false ∧
      ∀ keyword ∈ keywords, keyword.toList.head? ≠ some c := by
  cases h with
  | nil => exact nomatch hfirst
  | char c =>
    simp only [begins, Bool.and_eq_true, Bool.not_eq_true', List.all_eq_true, bne_iff_ne] at hfirst
    exact ⟨c, rfl, hfirst⟩
  | parameter => exact nomatch hfirst

/-- A text stays as it is if no keyword starts like it. -/
theorem stripKeyword_eq_self {c : Char} (hc : cs.head? = some c)
    (hkeyword : ∀ keyword ∈ keywords, keyword.toList.head? ≠ some c) : stripKeyword cs = cs := by
  have hnone : keywords.findSome? (fun keyword => after? keyword.toList cs) = none := by
    rw [List.findSome?_eq_none_iff]
    intro keyword hmem
    rw [Option.eq_none_iff_forall_ne_some]
    intro rest hrest
    obtain rfl := after?_eq_some.mp hrest
    have hne : ∀ keyword ∈ keywords, keyword.toList ≠ [] := by decide
    rw [List.head?_append_of_ne_nil _ (hne keyword hmem)] at hc
    exact hkeyword keyword hmem hc
  rw [stripKeyword, hnone]

/-- A text that a definition spells has no blank ends and no leading keyword. -/
theorem bare_of_spelled (hd : d ∈ definitions) (h : Spelled (symbols d.expression) arguments cs) :
    stripKeyword (Text.trim cs) = cs := by
  obtain ⟨hbegins, hcloses⟩ := begins_and_closes d hd
  obtain ⟨first, hfirst, hblank, hkeyword⟩ := head?_of_begins h hbegins
  obtain ⟨last, hlast, hblank'⟩ := getLast?_of_closes h hcloses
  have htrimmed : Text.Trimmed cs := by
    refine ⟨fun c hc => ?_, fun c hc => ?_⟩
    · rw [hfirst] at hc
      exact Option.mem_some_iff.mp hc ▸ hblank
    · rw [hlast] at hc
      exact Option.mem_some_iff.mp hc ▸ hblank'
  rw [htrimmed.trim_eq, stripKeyword_eq_self hfirst hkeyword]

/-! ### Parsing -/

/-- Parsing a text that a definition spells builds the step of that definition. -/
theorem parse_of_spelled (hd : d ∈ definitions) (h : Spelled (symbols d.expression) arguments cs)
    (table : Option DataTable) :
    parse (String.ofList cs) table = d.build ⟨String.ofList cs, arguments, table⟩ := by
  have hmatch := unambiguous_definitions.match?_eq_some.mpr ⟨hd, h⟩
  simp only [parse, parseWith, String.toList_ofList, bare_of_spelled hd h, hmatch]

/-- A step is parsed exactly if a definition spells the text without its keyword and builds the step
from what is captured. -/
theorem parse_eq_ok_iff {s : String} {table : Option DataTable} {step : Step} :
    parse s table = .ok step ↔
      ∃ d ∈ definitions, ∃ arguments,
        Spelled (symbols d.expression) arguments (stripKeyword (Text.trim s.toList)) ∧
        d.build ⟨String.ofList (stripKeyword (Text.trim s.toList)), arguments, table⟩ =
          .ok step := by
  simp only [parse, parseWith]
  constructor
  · intro h
    split at h
    · cases h
    · next d arguments hmatch =>
      obtain ⟨hd, hs⟩ := unambiguous_definitions.match?_eq_some.mp hmatch
      exact ⟨d, hd, arguments, hs, h⟩
  · rintro ⟨d, hd, arguments, hs, hbuild⟩
    simp only [unambiguous_definitions.match?_eq_some.mpr ⟨hd, hs⟩, hbuild]

/-- A step that is parsed was built by a definition that spells a text. -/
theorem spelled_of_parse {s : String} {table : Option DataTable} {step : Step}
    (h : parse s table = .ok step) :
    ∃ d ∈ definitions, ∃ arguments cs, Spelled (symbols d.expression) arguments cs ∧
      d.build ⟨String.ofList cs, arguments, table⟩ = .ok step := by
  obtain ⟨d, hd, arguments, hs, hbuild⟩ := parse_eq_ok_iff.mp h
  exact ⟨d, hd, arguments, _, hs, hbuild⟩

/-- **The catalog is unambiguous**: the arguments with which a definition matches a text are those
that spell it; whatever the text, at most one definition matches it, with one list of arguments at
most; and a step is parsed in the same way with the definitions in any other order. -/
theorem parse_unambiguous :
    (∀ d ∈ definitions, ∀ arguments cs,
      arguments ∈ solutions d.expression cs ↔ Spelled (symbols d.expression) arguments cs) ∧
    (∀ (i j : Nat) (hi : i < definitions.length) (hj : j < definitions.length)
      (arguments arguments' : List String) (cs : List Char),
      arguments ∈ solutions definitions[i].expression cs →
      arguments' ∈ solutions definitions[j].expression cs → i = j ∧ arguments = arguments') ∧
    (∀ ds : List Definition, ds.Perm definitions →
      ∀ (s : String) (table : Option DataTable), parseWith ds s table = parse s table) := by
  refine ⟨fun d _ arguments cs => mem_solutions, fun i j hi hj arguments arguments' cs h h' => ?_,
    fun ds hperm s table => ?_⟩
  · exact unambiguous_definitions.index_unique (mem_solutions.mp h) (mem_solutions.mp h')
  · simp only [parse, parseWith, unambiguous_definitions.match?_perm hperm]

end ApiCheck.Step.Catalog
