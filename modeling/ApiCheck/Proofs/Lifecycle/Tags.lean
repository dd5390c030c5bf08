import ApiCheck.Proofs.Lifecycle

/-!
# Skipping by tags

A table is `Ready` if the lifecycle alone filled it, at least once and with valid configurations only.
On such a table the hooks before a scenario never fail, and they skip the scenario exactly if it
carries the text of a known tag (`Ready.result_runBefore`).

The known tags of a scenario are read with blanks around them, the hooks look for the exact text.  So
a skipped scenario has known tags, but a scenario may have known tags and not be skipped: if blanks
stand around all of them (`skips_iff_knownTags`).
-/

namespace ApiCheck

/-! ### Tags -/

namespace Tag

theorem text_injective : Function.Injective text := by
  intro a b h
  cases a <;> cases b <;> simp_all [text]

/-- A text spells the tag whose text it is without its blank ends. -/
theorem parse?_eq_some {s : String} {tag : Tag} :
    parse? s = some tag ↔ Text.trimmed s = tag.text := by
  constructor
  · intro h
    have htext := List.find?_some h
    exact (beq_iff_eq.mp htext).symm
  · intro h
    cases hparse : parse? s with
    | none =>
      have hmem : tag ∈ all := by cases tag <;> decide
      exact absurd (beq_iff_eq.mpr h.symm) (List.find?_eq_none.mp hparse tag hmem)
    | some other =>
      have htext := List.find?_some hparse
      rw [text_injective ((beq_iff_eq.mp htext).trans h)]

end Tag

namespace Scenario

/-- The scenario carries exactly the text of a known tag. -/
def Carries (s : Scenario) : Prop := ∃ tag : Tag, tag.text ∈ s.tags

/-- The scenario carries a known tag with blanks around it. -/
def CarriesPadded (s : Scenario) : Prop :=
  ∃ text ∈ s.tags, ∃ tag : Tag, Text.trimmed text = tag.text ∧ text ≠ tag.text

theorem hasTag_iff {s : Scenario} {text : String} : s.hasTag text = true ↔ text ∈ s.tags :=
  List.contains_iff_mem

theorem carries_iff {s : Scenario} :
    s.Carries ↔ s.hasTag "@skip" = true ∨ s.hasTag "@wip" = true := by
  rw [hasTag_iff, hasTag_iff]
  constructor
  · rintro ⟨tag, htag⟩
    cases tag with
    | skip => exact .inl htag
    | wip => exact .inr htag
  · rintro (h | h)
    · exact ⟨.skip, h⟩
    · exact ⟨.wip, h⟩

theorem knownTags_ne_nil {s : Scenario} :
    s.knownTags ≠ [] ↔ ∃ text ∈ s.tags, ∃ tag : Tag, Text.trimmed text = tag.text := by
  have hmem : ∀ tag, tag ∈ s.knownTags ↔ ∃ text ∈ s.tags, Text.trimmed text = tag.text := by
    intro tag
    simp only [knownTags, List.mem_filterMap, Tag.parse?_eq_some]
  constructor
  · intro h
    obtain ⟨tag, htag⟩ := List.exists_mem_of_ne_nil _ h
    obtain ⟨text, htext, htrimmed⟩ := (hmem tag).mp htag
    exact ⟨text, htext, tag, htrimmed⟩
  · rintro ⟨text, htext, tag, htrimmed⟩
    exact List.ne_nil_of_mem ((hmem tag).mpr ⟨text, htext, htrimmed⟩)

theorem trimmed_text (tag : Tag) : Text.trimmed tag.text = tag.text := by
  cases tag <;> decide

/-- A scenario has known tags if it carries one, with blanks around it or without. -/
theorem knownTags_ne_nil_iff {s : Scenario} :
    s.knownTags ≠ [] ↔ s.Carries ∨ s.CarriesPadded := by
  rw [knownTags_ne_nil]
  constructor
  · rintro ⟨text, htext, tag, htag⟩
    by_cases hexact : text = tag.text
    · exact .inl ⟨tag, hexact ▸ htext⟩
    · exact .inr ⟨text, htext, tag, htag, hexact⟩
  · rintro (⟨tag, htag⟩ | ⟨text, htext, tag, htag, -⟩)
    · exact ⟨tag.text, htag, tag, trimmed_text tag⟩
    · exact ⟨text, htext, tag, htag⟩

end Scenario

/-! ### Hooks in a row -/

namespace HookTable

variable {s : Scenario}

/-- Hooks that let a scenario go on are followed by those behind them; behind one that fails or skips
the scenario none runs. -/
theorem runHooks_append (hs later : List Hook) (c : Context) :
    ((runHooks s hs c).result = .ok .proceed →
      runHooks s (hs ++ later) c =
        (runHooks s later (runHooks s hs c).context).after (runHooks s hs c).journal) ∧
    ((runHooks s hs c).result ≠ .ok .proceed →
      runHooks s (hs ++ later) c = runHooks s hs c) := by
  induction hs generalizing c with
  | nil => exact ⟨fun _ => rfl, fun h => absurd rfl h⟩
  | cons first rest ih =>
    obtain ⟨tag, action⟩ := first
    rw [List.cons_append]
    by_cases happ : Hook.appliesTo ⟨tag, action⟩ s
    · by_cases hproceed : (action c s).result = .ok .proceed
      · rw [runHooks_of_applies happ _ hproceed, runHooks_of_applies happ _ hproceed]
        obtain ⟨hgoOn, hstop⟩ := ih (action c s).context
        refine ⟨fun h => ?_, fun h => ?_⟩
        · rw [hgoOn h]
          simp only [Effect.after, List.append_assoc]
        · rw [hstop h]
      · rw [runHooks_of_stops happ _ hproceed, runHooks_of_stops happ _ hproceed]
        exact ⟨fun h => absurd h hproceed, fun _ => rfl⟩
    · rw [runHooks_of_not_applies happ, runHooks_of_not_applies happ]
      exact ih c

end HookTable

/-! ### Ready tables -/

namespace Lifecycle

/-- The table was filled by the lifecycle alone, at least once and with valid configurations. -/
inductive Ready : HookTable → Prop
  | once {config : Config} (valid : config.validate = .ok ()) : Ready (register config {})
  | again {config : Config} {t : HookTable} (ready : Ready t) (valid : config.validate = .ok ()) :
      Ready (register config t)

theorem result_register_empty {config : Config} (valid : config.validate = .ok ()) (c : Context)
    (s : Scenario) : (s.Carries → ((register config {}).runBefore c s).result = .ok .skip) ∧
      (¬ s.Carries → ((register config {}).runBefore c s).result = .ok .proceed) := by
  rw [runBefore_of_valid valid, Scenario.carries_iff]
  split
  · next h => exact ⟨fun _ => rfl, fun hnot => absurd h hnot⟩
  · next h => exact ⟨fun hcarries => absurd hcarries h, fun _ => rfl⟩

/-- The hooks of a ready table skip the scenarios that carry a known tag, and let all others go on. -/
theorem Ready.result_runBefore {t : HookTable} (ht : Ready t) (c : Context) (s : Scenario) :
    (s.Carries → (t.runBefore c s).result = .ok .skip) ∧
      (¬ s.Carries → (t.runBefore c s).result = .ok .proceed) := by
  induction ht generalizing c with
  | once valid => exact result_register_empty valid c s
  | @again config t _ valid ih =>
    have hbefore : (register config t).before = t.before ++ (register config {}).before := by
      rw [before_register, before_register, List.nil_append]
    unfold HookTable.runBefore at ih ⊢
    rw [hbefore]
    constructor
    · -- The hooks that were there before skip the scenario already.
      intro hcarries
      have hskip := (ih c).1 hcarries
      rw [(HookTable.runHooks_append _ _ _).2 (by rw [hskip]; simp), hskip]
    · intro hnot
      rw [(HookTable.runHooks_append _ _ _).1 ((ih c).2 hnot)]
      exact (result_register_empty valid _ s).2 hnot

/-- **Skipping and known tags**, on a table that the lifecycle alone filled with valid configurations.
The hooks before a scenario skip it exactly if it carries the text of a known tag, and else let it go
on.  It has known tags exactly if it carries one, with blanks around it or without.  So a skipped
scenario has known tags, and the two agree on a scenario unless every known tag that it carries stands
between blanks. -/
theorem skips_iff_knownTags {t : HookTable} (ht : Ready t) (c : Context) (s : Scenario) :
    ((t.runBefore c s).result = .ok .skip ↔ s.Carries) ∧
    ((t.runBefore c s).result = .ok .proceed ↔ ¬ s.Carries) ∧
    (s.knownTags ≠ [] ↔ s.Carries ∨ s.CarriesPadded) ∧
    (((t.runBefore c s).result = .ok .skip ↔ s.knownTags ≠ []) ↔
      (s.CarriesPadded → s.Carries)) := by
  obtain ⟨hskip, hproceed⟩ := ht.result_runBefore c s
  have hskips : (t.runBefore c s).result = .ok .skip ↔ s.Carries := by
    refine ⟨fun h => Classical.byContradiction fun hnot => ?_, hskip⟩
    rw [hproceed hnot] at h
    exact nomatch h
  have hproceeds : (t.runBefore c s).result = .ok .proceed ↔ ¬ s.Carries := by
    refine ⟨fun h hcarries => ?_, hproceed⟩
    rw [hskip hcarries] at h
    exact nomatch h
  refine ⟨hskips, hproceeds, Scenario.knownTags_ne_nil_iff, ?_⟩
  rw [hskips, Scenario.knownTags_ne_nil_iff]
  constructor
  · exact fun h hpadded => h.mpr (.inr hpadded)
  · exact fun h => ⟨.inl, fun hknown => hknown.elim id h⟩

/-- A scenario with a known tag between blanks. -/
def padded : Scenario := { name := "later", tags := ["@api", " @skip "] }

theorem skips_iff_knownTags_padded :
    let t := register { name := "users api" } {}
    let c : Context := { now := ⟨0, 0, 0⟩ }
    Ready t ∧ padded.CarriesPadded ∧ ¬ padded.Carries ∧
      ¬ ((t.runBefore c padded).result = .ok .skip ↔ padded.knownTags ≠ []) := by
  intro t c
  have ht : Ready t := .once rfl
  have hpadded : padded.CarriesPadded :=
    ⟨" @skip ", by decide, .skip, by decide +kernel, by decide⟩
  have hcarries : ¬ padded.Carries := by
    rintro ⟨tag, htag⟩
    cases tag <;> exact absurd htag (by decide)
  refine ⟨ht, hpadded, hcarries, ?_⟩
  rw [(skips_iff_knownTags ht c padded).2.2.2]
  exact fun h => hcarries (h hpadded)

/-- A scenario may have a known tag and not be skipped. -/
theorem exists_knownTags_without_skip :
    let t := register { name := "users api" } {}
    let c : Context := { now := ⟨0, 0, 0⟩ }
    Ready t ∧ padded.knownTags = [.skip] ∧ (t.runBefore c padded).result = .ok .proceed := by
  refine ⟨.once rfl, by decide +kernel, rfl⟩

end Lifecycle

end ApiCheck
