import ApiCheck.Lifecycle
import ApiCheck.Proofs.Hook

/-!
# What the lifecycle does before a scenario

On a table that holds the hooks of the lifecycle alone, the hooks before a scenario refuse a
configuration that is not valid and leave the context as it is (`runBefore_of_invalid`).  A valid one
is injected, the dataset is seeded, and the scenario is skipped if it carries `@skip` or `@wip`
(`runBefore_of_valid`).

`Only t` says that the table `t` was filled by the lifecycle alone, however often and with whatever
configurations.  On such a table the mark of the context is set exactly when a scenario is skipped
(`Only.skipped_runBefore`), and nothing runs after scenarios.
-/

namespace ApiCheck

namespace HookTable

/-! ### Marks -/

/-- A hook sets the mark of the context if it skips the scenario, and else leaves the mark. -/
def MarksSkips (action : HookAction) : Prop :=
  ∀ c s, (action c s).context.skipped = true ↔
    (action c s).result = .ok .skip ∨ c.skipped = true

/-- Hooks that set the mark when they skip a scenario do so together. -/
theorem skipped_runHooks {s : Scenario} {hs : List Hook} (hmarks : ∀ h ∈ hs, MarksSkips h.action)
    (c : Context) : (runHooks s hs c).context.skipped = true ↔
      (runHooks s hs c).result = .ok .skip ∨ c.skipped = true := by
  induction hs generalizing c with
  | nil => simp [runHooks]
  | cons h rest ih =>
    have hrest := ih fun h' hh' => hmarks h' (List.mem_cons_of_mem h hh')
    have hfirst := hmarks h List.mem_cons_self c s
    obtain ⟨tag, action⟩ := h
    by_cases happ : Hook.appliesTo ⟨tag, action⟩ s
    · by_cases hproceed : (action c s).result = .ok .proceed
      · rw [runHooks_of_applies happ rest hproceed]
        simp only [hproceed, Except.ok.injEq, reduceCtorEq, false_or] at hfirst
        exact (hrest _).trans (or_congr Iff.rfl hfirst)
      · rw [runHooks_of_stops happ rest hproceed]
        exact hfirst
    · rw [runHooks_of_not_applies happ]
      exact hrest c

end HookTable

namespace Lifecycle

/-! ### The hooks of the lifecycle -/

theorem marksSkips_inject (config : Config) : HookTable.MarksSkips (inject config) := by
  intro c s
  unfold inject Context.setConfig
  split
  · next h =>
    split at h
    · obtain rfl := Except.ok.inj h
      simp
    · exact nomatch h
  · simp

theorem marksSkips_seed : HookTable.MarksSkips seed := by
  intro c s
  simp [seed]

theorem marksSkips_skip : HookTable.MarksSkips skip := by
  intro c s
  simp [skip]

theorem before_register (config : Config) (t : HookTable) :
    (register config t).before = t.before ++
      [⟨none, inject config⟩, ⟨none, seed⟩, ⟨some "@skip", skip⟩, ⟨some "@wip", skip⟩] := by
  simp [register, Tag.all, Tag.text, HookTable.addBefore, HookTable.addTagged]

theorem after_register (config : Config) (t : HookTable) :
    (register config t).after = t.after := rfl

/-! ### One configuration -/

variable {config : Config} {c : Context}

/-- The context in which the lines of a scenario start. -/
def prepared (c : Context) (config : ValidConfig) (s : Scenario) : Context :=
  { c with config := some config, data := c.data.seed s }

/-- A configuration that is not valid is refused, and nothing else happens. -/
theorem runBefore_of_invalid {cause : ConfigError} (h : config.validate = .error cause)
    (c : Context) (s : Scenario) :
    (register config {}).runBefore c s = ⟨c, [], .error (.config cause)⟩ := by
  have hinject : inject config c s = ⟨c, [], .error (.config cause)⟩ := by
    simp only [inject, c.setConfig_of_invalid h]
  unfold HookTable.runBefore
  rw [before_register, List.nil_append, HookTable.runHooks_of_stops rfl _ (by simp [hinject])]
  exact hinject

/-- A valid configuration is injected, the dataset is seeded, and the scenario is skipped if it
carries a known tag. -/
theorem runBefore_of_valid (h : config.validate = .ok ()) (c : Context) (s : Scenario) :
    (register config {}).runBefore c s =
      if s.hasTag "@skip" ∨ s.hasTag "@wip" then
        ⟨{ prepared c ⟨config, h⟩ s with skipped := true }, [], .ok .skip⟩
      else ⟨prepared c ⟨config, h⟩ s, [], .ok .proceed⟩ := by
  have hinject : inject config c s =
      ⟨{ c with config := some ⟨config, h⟩ }, [], .ok .proceed⟩ := by
    simp only [inject, c.setConfig_of_valid h]
  unfold HookTable.runBefore
  rw [before_register, List.nil_append, HookTable.runHooks_of_applies rfl _ (by rw [hinject]),
    hinject, HookTable.runHooks_of_applies rfl _ rfl]
  have hstops (c : Context) : (skip c s).result ≠ .ok .proceed := by simp [skip]
  have happ (tag : String) : Hook.appliesTo ⟨some tag, skip⟩ s = s.hasTag tag := rfl
  -- Both tags run the same hook, and the first that the scenario carries ends the row.
  by_cases hs : s.hasTag "@skip"
  · rw [HookTable.runHooks_of_stops (by rwa [happ]) _ (hstops _),
      ite_cond_eq_true _ _ (by simp [hs])]
    rfl
  · rw [HookTable.runHooks_of_not_applies (by rwa [happ])]
    by_cases hw : s.hasTag "@wip"
    · rw [HookTable.runHooks_of_stops (by rwa [happ]) _ (hstops _),
        ite_cond_eq_true _ _ (by simp [hw])]
      rfl
    · rw [HookTable.runHooks_of_not_applies (by rwa [happ]),
        ite_cond_eq_false _ _ (by simp [hs, hw])]
      rfl

/-! ### Any configurations -/

/-- The table was filled by the lifecycle alone. -/
inductive Only : HookTable → Prop
  | empty : Only {}
  | register {t : HookTable} (config : Config) (only : Only t) : Only (register config t)

theorem Only.marksSkips {t : HookTable} (ht : Only t) :
    ∀ h ∈ t.before, HookTable.MarksSkips h.action := by
  induction ht with
  | empty => exact fun h hh => nomatch hh
  | register config _ ih =>
    intro h hh
    rw [before_register] at hh
    rcases List.mem_append.mp hh with hh | hh
    · exact ih h hh
    · simp only [List.mem_cons, List.not_mem_nil, or_false] at hh
      rcases hh with rfl | rfl | rfl | rfl
      · exact marksSkips_inject config
      · exact marksSkips_seed
      · exact marksSkips_skip
      · exact marksSkips_skip

theorem Only.after_eq_nil {t : HookTable} (ht : Only t) : t.after = [] := by
  induction ht with
  | empty => rfl
  | register config _ ih => rw [after_register, ih]

/-- The mark is set exactly when the scenario is skipped, or was set before. -/
theorem Only.skipped_runBefore {t : HookTable} (ht : Only t) (c : Context) (s : Scenario) :
    (t.runBefore c s).context.skipped = true ↔
      (t.runBefore c s).result = .ok .skip ∨ c.skipped = true :=
  HookTable.skipped_runHooks ht.marksSkips c

theorem Only.runAfter_eq {t : HookTable} (ht : Only t) (c : Context) (s : Scenario) :
    t.runAfter c s = ⟨c, [], .ok ()⟩ := by
  unfold HookTable.runAfter
  rw [ht.after_eq_nil]
  rfl

end Lifecycle

end ApiCheck
