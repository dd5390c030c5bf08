import ApiCheck.Proofs.Step.Outcome

/-!
# What leads a text

A keyword in front of a text and blanks around both are of no account (`Step.parse_lead`).  One keyword
is dropped at most: behind it the rest is taken as it stands, and no definition spells a text that starts
with a keyword (`Step.not_matches_of_led`).  So a text that starts with a keyword of its own is another
one behind a second keyword, and so is a keyword that has nothing behind it.
-/

namespace ApiCheck.Step

open Catalog

/-! ### Keywords -/

/-- The text starts with a keyword. -/
def Led (cs : List Char) : Prop := ∃ keyword ∈ keywords, keyword.toList <+: cs

/-- No keyword starts with a blank. -/
theorem head_of_keyword :
    ∀ keyword ∈ keywords, ∃ c, keyword.toList.head? = some c ∧ Text.isBlank c = false := by
  have hhead : ∀ keyword ∈ keywords, keyword.toList.head?.any (fun c => !Text.isBlank c) := by
    decide
  intro keyword hkeyword
  obtain ⟨c, hc, hblank⟩ := Option.any_eq_true _ _ |>.mp (hhead keyword hkeyword)
  exact ⟨c, hc, by simpa using hblank⟩

theorem keyword_ne_nil {keyword : String} (h : keyword ∈ keywords) : keyword.toList ≠ [] := by
  obtain ⟨c, hc, -⟩ := head_of_keyword keyword h
  exact List.ne_nil_of_mem (List.mem_of_mem_head? hc)

/-- No keyword starts with another one. -/
theorem keyword_eq_of_leads : ∀ keyword ∈ keywords, ∀ keyword' ∈ keywords,
    keyword.toList <+: keyword'.toList → keyword = keyword' := by
  decide

/-- The keyword in front of a text is dropped, with the blanks behind it. -/
theorem stripKeyword_append {keyword : String} (h : keyword ∈ keywords) (rest : List Char) :
    stripKeyword (keyword.toList ++ rest) = Text.trimStart rest := by
  rw [stripKeyword]
  cases hfound : keywords.findSome? fun k => after? k.toList (keyword.toList ++ rest) with
  | none =>
    have hnone := List.findSome?_eq_none_iff.mp hfound keyword h
    rw [after?_eq_some.mpr rfl] at hnone
    cases hnone
  | some rest' =>
    obtain ⟨keyword', h', hafter⟩ := List.exists_of_findSome?_eq_some hfound
    have happend := after?_eq_some.mp hafter
    -- Of two keywords in front of one text one starts with the other.
    have hsame : keyword = keyword' := by
      rcases List.prefix_or_prefix_of_prefix (List.prefix_append keyword.toList rest)
        (happend ▸ List.prefix_append keyword'.toList rest') with hprefix | hprefix
      · exact keyword_eq_of_leads keyword h keyword' h' hprefix
      · exact (keyword_eq_of_leads keyword' h' keyword h hprefix).symm
    subst hsame
    rw [List.append_cancel_left happend]

/-- A text that starts with no keyword stays as it is. -/
theorem stripKeyword_of_not_led {cs : List Char} (h : ¬ Led cs) : stripKeyword cs = cs := by
  have hnone : keywords.findSome? (fun keyword => after? keyword.toList cs) = none := by
    rw [List.findSome?_eq_none_iff]
    intro keyword hkeyword
    rw [Option.eq_none_iff_forall_ne_some]
    intro rest hrest
    exact h ⟨keyword, hkeyword, rest, (after?_eq_some.mp hrest).symm⟩
  rw [stripKeyword, hnone]

/-- Of a text that starts with a keyword less is left. -/
theorem length_stripKeyword_of_led {cs : List Char} (h : Led cs) :
    (stripKeyword cs).length < cs.length := by
  obtain ⟨keyword, hkeyword, rest, rfl⟩ := h
  have hpos := List.length_pos_of_ne_nil (keyword_ne_nil hkeyword)
  have hle : (Text.trimStart rest).length ≤ rest.length := List.length_dropWhile_le _ _
  rw [stripKeyword_append hkeyword, List.length_append]
  omega

/-- What a definition spells starts with a character that starts no keyword. -/
theorem Matches.head? {d : Definition} {arguments : List String} {cs : List Char}
    (h : Matches d arguments cs) :
    ∃ c, cs.head? = some c ∧ ∀ keyword ∈ keywords, keyword.toList.head? ≠ some c := by
  obtain ⟨c, hc, -, hother⟩ :=
    head?_of_begins (mem_solutions.mp h.2) (begins_and_closes d h.1).1
  exact ⟨c, hc, hother⟩

/-- No definition spells a text that starts with a keyword. -/
theorem not_matches_of_led {cs : List Char} (h : Led cs) :
    ¬ ∃ d arguments, Matches d arguments cs := by
  rintro ⟨d, arguments, hmatches⟩
  obtain ⟨keyword, hkeyword, rest, rfl⟩ := h
  obtain ⟨c, hc, hother⟩ := hmatches.head?
  rw [List.head?_append_of_ne_nil _ (keyword_ne_nil hkeyword)] at hc
  exact hother keyword hkeyword hc

theorem not_matches_nil : ¬ ∃ d arguments, Matches d arguments [] := by
  rintro ⟨d, arguments, hmatches⟩
  obtain ⟨c, hc, -⟩ := hmatches.head?
  cases hc

/-! ### Texts -/

variable {s t : String} {table : Option DataTable}

/-- Only what is left of a text without keyword and blank ends matters. -/
theorem parse_congr
    (h : stripKeyword (Text.trim s.toList) = stripKeyword (Text.trim t.toList)) :
    parse s table = parse t table := by
  simp only [parse, parseWith, h]

/-- An unknown text is reported without keyword and blank ends. -/
theorem eq_of_parse_eq_unknownStep {text : String}
    (h : parse s table = .error (.unknownStep text)) :
    text = String.ofList (stripKeyword (Text.trim s.toList)) := by
  by_cases hknown : ∃ d arguments, Matches d arguments (stripKeyword (Text.trim s.toList))
  · obtain ⟨d, arguments, hmatches⟩ := hknown
    rw [parse_of_matches hmatches] at h
    exact absurd h ((hmatches.outcome _ table).ne_unknownStep text)
  · rw [parse_of_not_matches hknown] at h
    exact (StepError.unknownStep.inj (Except.error.inj h)).symm

/-- Texts that come to the same are left as the same, if no definition matches the one. -/
theorem stripKeyword_eq_of_parse_eq
    (h : ¬ ∃ d arguments, Matches d arguments (stripKeyword (Text.trim s.toList)))
    (heq : parse s table = parse t table) :
    stripKeyword (Text.trim s.toList) = stripKeyword (Text.trim t.toList) := by
  rw [parse_of_not_matches h] at heq
  exact String.ofList_injective (eq_of_parse_eq_unknownStep heq.symm)

/-! ### A keyword in front -/

section

variable {keyword before between after : String} (hkeyword : keyword ∈ keywords)
  (hbefore : Text.isBlankText before = true) (hbetween : Text.isBlankText between = true)
  (hafter : Text.isBlankText after = true)

include hkeyword hbefore hbetween hafter

/-- What is left of a text behind a keyword, with blanks around both, is the text without blank ends. -/
theorem stripKeyword_lead (h : Text.trim t.toList ≠ []) :
    stripKeyword (Text.trim (before ++ keyword ++ between ++ Text.trimmed t ++ after).toList) =
      Text.trim t.toList := by
  have htrimmed : Text.Trimmed (Text.trim t.toList) := Text.trimmed_trim t.toList
  -- The keyword does not start with a blank, and the text does not end with one.
  have hinner : Text.Trimmed (keyword.toList ++ (between.toList ++ Text.trim t.toList)) := by
    refine ⟨fun c hc => ?_, fun c hc => ?_⟩
    · obtain ⟨c', hc', hblank⟩ := head_of_keyword keyword hkeyword
      rw [List.head?_append_of_ne_nil _ (keyword_ne_nil hkeyword), hc'] at hc
      exact Option.mem_some_iff.mp hc ▸ hblank
    · rw [List.getLast?_append_of_ne_nil _ (List.append_ne_nil_of_right_ne_nil _ h),
        List.getLast?_append_of_ne_nil _ h] at hc
      exact htrimmed.last c hc
  have hsplit : (before ++ keyword ++ between ++ Text.trimmed t ++ after).toList =
      before.toList ++ (keyword.toList ++ (between.toList ++ Text.trim t.toList)) ++
        after.toList := by
    simp only [String.toList_append, Text.trimmed, String.toList_ofList, List.append_assoc]
  rw [hsplit, Text.trim_pad (List.all_eq_true.mp hbefore) (List.all_eq_true.mp hafter),
    hinner.trim_eq, stripKeyword_append hkeyword, Text.trimStart,
    List.dropWhile_append_of_pos (List.all_eq_true.mp hbetween)]
  exact Text.trimStart_eq_self htrimmed.head

/-- A keyword with nothing but blanks around it is left without its own blank. -/
theorem stripKeyword_lead_of_blank (h : Text.trim t.toList = []) :
    stripKeyword (Text.trim (before ++ keyword ++ between ++ Text.trimmed t ++ after).toList) ≠
      [] := by
  have halone : ∀ k ∈ keywords, stripKeyword (Text.trim k.toList) ≠ [] := by decide
  have hbehind : ∀ c ∈ between.toList ++ after.toList, Text.isBlank c = true :=
    List.forall_mem_append.mpr ⟨List.all_eq_true.mp hbetween, List.all_eq_true.mp hafter⟩
  have hsplit : (before ++ keyword ++ between ++ Text.trimmed t ++ after).toList =
      before.toList ++ keyword.toList ++ (between.toList ++ after.toList) := by
    simp only [String.toList_append, Text.trimmed, String.toList_ofList, h, List.append_assoc,
      List.nil_append]
  rw [hsplit, Text.trim_pad (List.all_eq_true.mp hbefore) hbehind]
  exact halone keyword hkeyword

/-- **A keyword in front of a text is of no account**, nor are the blanks around the two: what is parsed
is the same step, or the same failure with the same text, whatever the table.  This holds of every text
that has other characters than blanks and does not start with a keyword itself, and of no other: behind
a keyword a second one is part of the text, and a keyword alone is a text of its own. -/
theorem parse_lead (t : String) (table : Option DataTable) :
    parse (before ++ keyword ++ between ++ Text.trimmed t ++ after) table = parse t table ↔
      Text.trimmed t ≠ "" ∧ ∀ k ∈ keywords, ¬ k.toList <+: (Text.trimmed t).toList := by
  have htrim : (Text.trimmed t).toList = Text.trim t.toList := String.toList_ofList
  have hplain : (∀ k ∈ keywords, ¬ k.toList <+: (Text.trimmed t).toList) ↔
      ¬ Led (Text.trim t.toList) := by
    rw [htrim, Led, not_exists]
    simp only [not_and]
  rw [hplain]
  by_cases hblank : Text.trim t.toList = []
  · -- Nothing is left of a blank text, but something is of a keyword.
    have hempty : Text.trimmed t = "" := by rw [Text.trimmed, hblank, String.ofList_nil]
    refine iff_of_false (fun heq => ?_) fun h => h.1 hempty
    have hleft : stripKeyword (Text.trim t.toList) = [] := by rw [hblank]; rfl
    have hstrip := stripKeyword_eq_of_parse_eq (hleft ▸ not_matches_nil) heq.symm
    rw [hleft] at hstrip
    exact stripKeyword_lead_of_blank hkeyword hbefore hbetween hafter hblank hstrip.symm
  · have hne : Text.trimmed t ≠ "" := fun hempty => hblank (by rw [← htrim, hempty]; rfl)
    have hlead := stripKeyword_lead hkeyword hbefore hbetween hafter hblank
    by_cases hled : Led (Text.trim t.toList)
    · -- The keyword of the text itself is left where another one stands in front of it.
      refine iff_of_false (fun heq => ?_) fun h => h.2 hled
      have hstrip := stripKeyword_eq_of_parse_eq (hlead ▸ not_matches_of_led hled) heq
      rw [hlead] at hstrip
      exact (length_stripKeyword_of_led hled).ne' (congrArg List.length hstrip)
    · refine iff_of_true (parse_congr ?_) ⟨hne, hled⟩
      rw [hlead, stripKeyword_of_not_led hled]

end

/-- A step is parsed behind a keyword between blanks, one of them the no-break space. -/
theorem parse_lead_padded :
    let t := "\tthe response status should be 200 "
    let led := "\n" ++ "* " ++ " \t" ++ Text.trimmed t ++ "\u00a0"
    "* " ∈ keywords ∧ Text.isBlankText "\n" = true ∧ Text.isBlankText " \t" = true ∧
      Text.isBlankText "\u00a0" = true ∧ Text.trimmed t ≠ "" ∧
      (∀ k ∈ keywords, ¬ k.toList <+: (Text.trimmed t).toList) ∧
      parse led none = parse t none ∧ (parse led none).toOption = some (.httpCode 200) := by
  intro t led
  have hkeyword : "* " ∈ keywords := by decide
  have hbefore : Text.isBlankText "\n" = true := by decide
  have hbetween : Text.isBlankText " \t" = true := by decide
  have hafter : Text.isBlankText "\u00a0" = true := by decide
  have hne : Text.trimmed t ≠ "" := by decide +kernel
  have hplain : ∀ k ∈ keywords, ¬ k.toList <+: (Text.trimmed t).toList := by decide +kernel
  have hsame : parse led none = parse t none :=
    (parse_lead hkeyword hbefore hbetween hafter t none).mpr ⟨hne, hplain⟩
  have hparse : (parse t none).toOption = some (.httpCode 200) := by decide +kernel
  refine ⟨hkeyword, hbefore, hbetween, hafter, hne, hplain, hsame, ?_⟩
  rw [hsame]
  exact hparse

end ApiCheck.Step
