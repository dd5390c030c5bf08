import ApiCheck.Template
import ApiCheck.Proofs.Text.Blank

/-!
# References

The key of a text is what stands between braces that enclose the whole text and close at its end only
(`key?_eq_some_iff`).  `reference name` is a text that refers to the value under `name` and holds
nothing else.  The key of a reference is its name without blank ends, unless that is empty
(`key?_reference_of_not_blank`).  A name that has no blank ends, is not empty and does not hold two
closing braces in a row is the key of its reference (`key?_reference`), and every key is such a name
(`exists_key?_iff`).
-/

namespace ApiCheck

namespace Template

/-- The text that refers to the value under a name. -/
def reference (name : String) : String :=
  String.ofList ('{' :: '{' :: ' ' :: (name.toList ++ [' ', '}', '}']))

/-- Two closing braces stand in the text one behind the other. -/
def Closes (cs : List Char) : Prop := ['}', '}'] <:+: cs

instance : DecidablePred Closes := fun cs => inferInstanceAs (Decidable (['}', '}'] <:+: cs))

theorem Closes.mono {as bs : List Char} (h : Closes as) (hpart : as <:+: bs) : Closes bs :=
  h.trans hpart

theorem Closes.cons {c : Char} {cs : List Char} (h : Closes cs) : Closes (c :: cs) :=
  h.mono (List.infix_cons (List.infix_refl cs))

theorem not_closes_append_brace {c : Char} {cs : List Char} (h : ¬ Closes (c :: cs ++ ['}'])) :
    ¬ Closes (cs ++ ['}']) ∧ ∀ rest after, c = '}' → cs ++ '}' :: after = '}' :: rest → False := by
  refine ⟨fun hcloses => h hcloses.cons, ?_⟩
  rintro rest after rfl hcs
  cases cs with
  | nil => exact h ⟨[], [], rfl⟩
  | cons c' cs =>
    obtain rfl : c' = '}' := (List.cons.inj hcs).1
    exact h ⟨[], cs ++ ['}'], rfl⟩

/-- Characters are read up to the first two closing braces. -/
theorem splitAtClose_append {inner : List Char} (h : ¬ Closes (inner ++ ['}']))
    (after : List Char) :
    splitAtClose (inner ++ '}' :: '}' :: after) = some (inner, after) := by
  induction inner with
  | nil => rfl
  | cons c inner ih =>
    obtain ⟨hinner, hopen⟩ := not_closes_append_brace h
    rw [List.cons_append, splitAtClose.eq_3 _ _ fun rest hc => hopen rest _ hc, ih hinner]

/-- What is read up to the first two closing braces does not close before. -/
theorem not_closes_of_splitAtClose {cs inner after : List Char}
    (h : splitAtClose cs = some (inner, after)) : ¬ Closes (inner ++ ['}']) := by
  fun_induction splitAtClose cs generalizing inner after with
  | case1 => cases h
  | case2 rest =>
    obtain ⟨rfl, -⟩ := Prod.mk.inj (Option.some.inj h)
    decide
  | case3 => cases h
  | case4 c rest hopen inner' after' hrest ih =>
    obtain ⟨rfl, -⟩ := Prod.mk.inj (Option.some.inj h)
    intro hcloses
    rcases List.infix_cons_iff.mp hcloses with hfirst | hlater
    · -- Two closing braces in front would have ended the text there.
      obtain ⟨rfl, ⟨more, hmore⟩⟩ := List.cons_prefix_cons.mp hfirst
      have hrest' : rest = '}' :: (more ++ '}' :: after') := by
        rw [splitAtClose_eq hrest]
        have hcons := congrArg (· ++ '}' :: after') hmore
        simpa using hcons.symm
      exact hopen _ rfl hrest'
    · exact ih hrest hlater

/-- Another character keeps the braces before it from those behind it. -/
theorem closes_append_cons_iff {c : Char} (hc : c ≠ '}') {as bs : List Char} :
    Closes (as ++ c :: bs) ↔ Closes as ∨ Closes bs := by
  constructor
  · intro h
    rcases List.infix_append_iff.mp h with has | hbs | ⟨l, l', hbraces, hl, hl'⟩
    · exact .inl has
    · rcases List.infix_cons_iff.mp hbs with hfirst | hbs
      · exact absurd (List.cons_prefix_cons.mp hfirst).1.symm hc
      · exact .inr hbs
    · cases l' with
      | nil =>
        rw [List.append_nil] at hbraces
        subst hbraces
        exact .inl hl.isInfix
      | cons c' l' =>
        have hmem : c' ∈ ['}', '}'] := hbraces ▸ List.mem_append_right l List.mem_cons_self
        obtain rfl : c' = '}' := by simpa using hmem
        exact absurd (List.cons_prefix_cons.mp hl').1.symm hc
  · rintro (has | hbs)
    · exact has.mono (List.prefix_append as _).isInfix
    · exact hbs.mono ((List.suffix_cons c bs).trans (List.suffix_append as _)).isInfix

/-- A text that does not close may be set off by blanks. -/
theorem not_closes_pad {cs : List Char} (h : ¬ Closes cs) :
    ¬ Closes (([' '] ++ cs ++ [' ']) ++ ['}']) := by
  have hsplit : ([' '] ++ cs ++ [' ']) ++ ['}'] = [] ++ ' ' :: (cs ++ ' ' :: ['}']) := by simp
  have hblank : ' ' ≠ '}' := by decide
  rw [hsplit, closes_append_cons_iff hblank, closes_append_cons_iff hblank]
  rintro (hnil | hcs | hbrace)
  · exact absurd hnil (by decide)
  · exact h hcs
  · exact absurd hbrace (by decide)

/-! ### Texts that are one reference -/

/-- The text is one reference with `inner` between its braces, blanks around it ignored. -/
structure Encloses (s : String) (inner : List Char) : Prop where
  source : Text.trim s.toList = (Piece.reference inner).source
  not_closes : ¬ Closes (inner ++ ['}'])
  not_blank : Text.trim inner ≠ []

theorem pieces_eq_nil_iff {cs : List Char} : pieces cs = [] ↔ cs = [] := by
  refine ⟨fun h => ?_, fun h => by rw [h, pieces]⟩
  have hsource := source_pieces cs
  rw [h] at hsource
  exact hsource.symm

theorem Piece.ofInner_eq_reference_iff {inner inner' : List Char} :
    Piece.ofInner inner = .reference inner' ↔ inner = inner' ∧ Text.trim inner ≠ [] := by
  unfold Piece.ofInner
  split
  · next h => exact ⟨nofun, fun h' => absurd h h'.2⟩
  · next h => exact ⟨fun h' => ⟨Piece.reference.inj h', h⟩, fun h' => congrArg _ h'.1⟩

/-- Two opening braces are cut off together with the first two closing braces after them. -/
theorem pieces_source_append {inner : List Char} (hclose : ¬ Closes (inner ++ ['}']))
    (after : List Char) :
    pieces ((Piece.reference inner).source ++ after) = Piece.ofInner inner :: pieces after := by
  have hsplit : splitAtClose (inner ++ ['}', '}'] ++ after) = some (inner, after) := by
    rw [List.append_assoc]
    exact splitAtClose_append hclose after
  rw [Piece.source, List.cons_append, List.cons_append, pieces]
  split
  · next hnone =>
    rw [hsplit] at hnone
    cases hnone
  · next hsome =>
    rw [hsplit] at hsome
    obtain ⟨rfl, rfl⟩ := Prod.mk.inj (Option.some.inj hsome)
    rfl

/-- Braces that close at the end only enclose one piece. -/
theorem pieces_source {inner : List Char} (hclose : ¬ Closes (inner ++ ['}'])) :
    pieces (Piece.reference inner).source = [Piece.ofInner inner] := by
  have happend := pieces_source_append hclose []
  rwa [List.append_nil, pieces_eq_nil_iff.mpr rfl] at happend

/-- A text is cut into one reference if braces enclose it that close at its end only. -/
theorem pieces_eq_reference_iff {cs inner : List Char} :
    pieces cs = [.reference inner] ↔
      cs = (Piece.reference inner).source ∧ ¬ Closes (inner ++ ['}']) ∧ Text.trim inner ≠ [] := by
  constructor
  · fun_cases pieces cs with
    | case1 => intro h; cases h
    | case2 => intro h; cases h
    | case3 rest inner' after hsplit =>
      intro h
      obtain ⟨hpiece, hafter⟩ := List.cons.inj h
      obtain ⟨rfl, hblank⟩ := Piece.ofInner_eq_reference_iff.mp hpiece
      obtain rfl := pieces_eq_nil_iff.mp hafter
      rw [splitAtClose_eq hsplit]
      exact ⟨rfl, not_closes_of_splitAtClose hsplit, hblank⟩
    | case4 => intro h; cases h
  · rintro ⟨rfl, hclose, hblank⟩
    rw [pieces_source hclose, Piece.ofInner_eq_reference_iff.mpr ⟨rfl, hblank⟩]

/-- The key of a text that is one reference is the name between its braces. -/
theorem key?_eq_some_iff {s name : String} :
    key? s = some name ↔ ∃ inner, Encloses s inner ∧ nameOf inner = name := by
  constructor
  · intro h
    unfold key? at h
    split at h
    · next inner hpieces =>
      obtain ⟨hsource, hclose, hblank⟩ := pieces_eq_reference_iff.mp hpieces
      exact ⟨inner, ⟨hsource, hclose, hblank⟩, Option.some.inj h⟩
    · exact nomatch h
  · rintro ⟨inner, ⟨hsource, hclose, hblank⟩, rfl⟩
    rw [key?, pieces_eq_reference_iff.mpr ⟨hsource, hclose, hblank⟩]

/-- A reference is its name between blanks and braces. -/
theorem toList_reference (name : String) :
    (reference name).toList = (Piece.reference ([' '] ++ name.toList ++ [' '])).source := by
  simp [reference, Piece.source]

/-- A reference has no blank ends. -/
theorem trimmed_reference (name : String) : Text.Trimmed (reference name).toList := by
  refine ⟨fun c hc => ?_, fun c hc => ?_⟩
  · obtain rfl : '{' = c := by simpa [reference] using hc
    rfl
  · have hlast : (reference name).toList.getLast? = some '}' := by
      simp [reference, List.getLast?_cons, List.getLast?_append]
    obtain rfl : '}' = c := Option.some.inj (hlast.symm.trans hc)
    rfl

/-- A reference is one piece. -/
theorem pieces_reference {name : String} (hclose : ¬ Closes name.toList) :
    pieces (reference name).toList = [Piece.ofInner ([' '] ++ name.toList ++ [' '])] := by
  rw [toList_reference, pieces_source (not_closes_pad hclose)]

theorem trim_pad_blank (cs : List Char) : Text.trim ([' '] ++ cs ++ [' ']) = Text.trim cs :=
  Text.trim_pad (List.forall_mem_singleton.mpr rfl) (List.forall_mem_singleton.mpr rfl)

/-- A reference to a blank name has no key. -/
theorem key?_reference_of_blank {name : String} (hname : Text.trim name.toList = [])
    (hclose : ¬ Closes name.toList) : key? (reference name) = none := by
  rw [key?, (trimmed_reference name).trim_eq, pieces_reference hclose, Piece.ofInner, trim_pad_blank,
    if_pos hname]

/-- The key of a reference is the name to which it refers, without its blank ends. -/
theorem key?_reference_of_not_blank {name : String} (hname : Text.trim name.toList ≠ [])
    (hclose : ¬ Closes name.toList) : key? (reference name) = some (Text.trimmed name) := by
  simp only [key?, (trimmed_reference name).trim_eq, pieces_reference hclose, Piece.ofInner, nameOf,
    trim_pad_blank, if_neg hname, Text.trimmed]

/-- A reference is read as one piece, which has the name of the reference. -/
theorem key?_reference {name : String} (hname : name ≠ "") (htrimmed : Text.Trimmed name.toList)
    (hclose : ¬ Closes name.toList) : key? (reference name) = some name := by
  have hne : name.toList ≠ [] := by simpa [String.toList_eq_nil_iff] using hname
  rw [key?_reference_of_not_blank (htrimmed.trim_eq.symm ▸ hne) hclose, Text.trimmed,
    htrimmed.trim_eq, String.ofList_toList]

/-! ### Keys -/

/-- The name of a reference has no blank ends. -/
theorem trimmed_nameOf (inner : List Char) : Text.Trimmed (nameOf inner).toList := by
  rw [nameOf, String.toList_ofList]
  exact Text.trimmed_trim inner

theorem nameOf_ne_empty {inner : List Char} (h : Text.trim inner ≠ []) : nameOf inner ≠ "" := by
  rwa [nameOf, Ne, ← String.toList_eq_nil_iff, String.toList_ofList]

/-- No two closing braces stand in the name of a reference that closes at its end only. -/
theorem not_closes_nameOf {inner : List Char} (h : ¬ Closes (inner ++ ['}'])) :
    ¬ Closes (nameOf inner).toList := by
  rw [nameOf, String.toList_ofList]
  intro hcloses
  have hpart : Text.trim inner <:+: inner ++ ['}'] :=
    (Text.trim_infix inner).trans (List.prefix_append inner _).isInfix
  exact h (hcloses.mono hpart)

/-- A key has no blank ends. -/
theorem trimmed_of_key? {s name : String} (h : key? s = some name) :
    Text.Trimmed name.toList := by
  obtain ⟨inner, -, rfl⟩ := key?_eq_some_iff.mp h
  exact trimmed_nameOf inner

theorem ne_empty_of_key? {s name : String} (h : key? s = some name) : name ≠ "" := by
  obtain ⟨inner, hinner, rfl⟩ := key?_eq_some_iff.mp h
  exact nameOf_ne_empty hinner.not_blank

/-- No two closing braces stand in a key. -/
theorem not_closes_of_key? {s name : String} (h : key? s = some name) :
    ¬ Closes name.toList := by
  obtain ⟨inner, hinner, rfl⟩ := key?_eq_some_iff.mp h
  exact not_closes_nameOf hinner.not_closes

/-- Two closing braces stand in every text that has a key. -/
theorem closes_of_key? {s name : String} (h : key? s = some name) : Closes s.toList := by
  obtain ⟨inner, hinner, -⟩ := key?_eq_some_iff.mp h
  have hclose : Closes (Text.trim s.toList) := by
    rw [hinner.source]
    exact ⟨'{' :: '{' :: inner, [], by simp [Piece.source]⟩
  exact hclose.mono (Text.trim_infix s.toList)

/-- A text without two closing braces has no key. -/
theorem key?_of_not_closes {s : String} (h : ¬ Closes s.toList) : key? s = none := by
  cases hkey : key? s with
  | none => rfl
  | some name => exact absurd (closes_of_key? hkey) h

/-- The names that are keys. -/
theorem exists_key?_iff {name : String} :
    (∃ s, key? s = some name) ↔
      name ≠ "" ∧ Text.Trimmed name.toList ∧ ¬ Closes name.toList := by
  constructor
  · rintro ⟨s, h⟩
    exact ⟨ne_empty_of_key? h, trimmed_of_key? h, not_closes_of_key? h⟩
  · rintro ⟨hname, htrimmed, hclose⟩
    exact ⟨reference name, key?_reference hname htrimmed hclose⟩

/-- Blank ends of a text do not matter for its key. -/
theorem key?_trimmed (s : String) : key? (Text.trimmed s) = key? s := by
  rw [key?, key?, Text.trimmed, String.toList_ofList, (Text.trimmed_trim s.toList).trim_eq]

end Template

end ApiCheck
