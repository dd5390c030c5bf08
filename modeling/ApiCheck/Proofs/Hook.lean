import ApiCheck.Hook

/-!
# Hooks run in turn

`InTurn` says of some actions what those of them did that were done: each in the state that the one
before it left, up to and including the first that stops.  A table of hooks is filled by registrations
of the five kinds in any order (`HookTable.ofRegistrations`).

`runs_inTurn` states that every run of the hooks of such a table is of this form.  Before a scenario the
actions are those that are bound to no tag or to one whose text the scenario carries; an action that
fails or skips the scenario stops.  After a scenario, and for the suite, only one that fails does.
-/

namespace ApiCheck

/-! ### Actions in turn -/

/-- `InTurn leaves stops actions x effects`: done one after another from the state `x`, each in the
state that the one before it leaves, the actions have the effects `effects`, and none is done behind
the first that stops. -/
inductive InTurn {σ ε : Type} (leaves : ε → σ) (stops : ε → Prop) :
    List (σ → ε) → σ → List ε → Prop
  | nil (x : σ) : InTurn leaves stops [] x []
  | stop {action : σ → ε} {x : σ} (h : stops (action x)) (rest : List (σ → ε)) :
      InTurn leaves stops (action :: rest) x [action x]
  | next {action : σ → ε} {rest : List (σ → ε)} {x : σ} {effects : List ε}
      (h : ¬ stops (action x)) (later : InTurn leaves stops rest (leaves (action x)) effects) :
      InTurn leaves stops (action :: rest) x (action x :: effects)

namespace Effect

variable {α : Type}

/-- The effect without what the action asks for when it does not fail. -/
def done (e : Effect α) : Effect Unit where
  context := e.context
  journal := e.journal
  result := e.result.map fun _ => ()

/-- The effects of actions in turn: the actions in a context end when one has another result than
`a`. -/
abbrev InTurn (a : α) : List (Context → Effect α) → Context → List (Effect α) → Prop :=
  ApiCheck.InTurn context fun e => e.result ≠ .ok a

/-- What effects in a row amount to: the context that the last one left, all that was noted, and the
result of the last one.  Where there is none, they leave the context `c` and result in `a`. -/
def total (a : α) (c : Context) (effects : List (Effect α)) : Effect α where
  context := (effects.getLast?.map context).getD c
  journal := effects.flatMap journal
  result := (effects.getLast?.map result).getD (.ok a)

theorem total_singleton (a : α) (c : Context) (e : Effect α) : total a c [e] = e := by
  simp [total]

/-- An effect that does not end a row is followed by the others. -/
theorem total_cons {a : α} {e : Effect α} (h : e.result = .ok a) (c : Context)
    (effects : List (Effect α)) :
    total a c (e :: effects) = (total a e.context effects).after e.journal := by
  cases effects with
  | nil => simp [total, after, h]
  | cons e' effects => simp [total, after, List.getLast?_cons]

end Effect

namespace SuiteEffect

/-- The effects of actions on the suite in turn. -/
abbrev InTurn (actions effects : List SuiteEffect) : Prop :=
  ApiCheck.InTurn (fun _ => ()) (fun e => e.result ≠ .ok ()) (actions.map fun e _ => e) () effects

/-- What effects in a row amount to: all notes, and the result of the last one. -/
def total (effects : List SuiteEffect) : SuiteEffect where
  notes := effects.flatMap notes
  result := (effects.getLast?.map result).getD (.ok ())

theorem total_singleton (e : SuiteEffect) : total [e] = e := by
  simp [total]

end SuiteEffect

namespace HookTable

variable {s : Scenario}

/-! ### One hook -/

section

variable {tag : Option String} {action : HookAction}

theorem runHooks_of_applies (happ : Hook.appliesTo ⟨tag, action⟩ s) (rest : List Hook)
    {c : Context} (hproceed : (action c s).result = .ok .proceed) :
    runHooks s (⟨tag, action⟩ :: rest) c =
      (runHooks s rest (action c s).context).after (action c s).journal := by
  simp only [runHooks, happ, hproceed, ↓reduceIte]

theorem runHooks_of_stops (happ : Hook.appliesTo ⟨tag, action⟩ s) (rest : List Hook)
    {c : Context} (hstop : (action c s).result ≠ .ok .proceed) :
    runHooks s (⟨tag, action⟩ :: rest) c = action c s := by
  unfold runHooks
  rw [ite_cond_eq_true _ _ (eq_true happ)]
  dsimp only
  split
  · next hproceed => exact absurd hproceed hstop
  · rfl

theorem runHooks_of_not_applies (happ : ¬ Hook.appliesTo ⟨tag, action⟩ s) (rest : List Hook)
    (c : Context) : runHooks s (⟨tag, action⟩ :: rest) c = runHooks s rest c := by
  simp only [runHooks, happ, Bool.false_eq_true, ↓reduceIte]

end

/-! ### All hooks -/

/-- Hooks before a scenario run in turn, those that do not apply to it left out. -/
theorem runHooks_inTurn (hs : List Hook) (c : Context) :
    ∃ effects, Effect.InTurn .proceed
        ((hs.filter (·.appliesTo s)).map fun h c => h.action c s) c effects ∧
      runHooks s hs c = Effect.total .proceed c effects := by
  induction hs generalizing c with
  | nil => exact ⟨[], .nil c, rfl⟩
  | cons h rest ih =>
    obtain ⟨tag, action⟩ := h
    -- A hook that does not apply is neither in the row nor run.
    by_cases happ : Hook.appliesTo ⟨tag, action⟩ s
    · rw [List.filter_cons, if_pos happ, List.map_cons]
      by_cases hproceed : (action c s).result = .ok .proceed
      · obtain ⟨effects, hturn, hrun⟩ := ih (action c s).context
        refine ⟨action c s :: effects, .next (not_not_intro hproceed) hturn, ?_⟩
        rw [runHooks_of_applies happ rest hproceed, hrun, Effect.total_cons hproceed]
      · refine ⟨[action c s], .stop ?_ _, ?_⟩
        · exact hproceed
        · rw [runHooks_of_stops happ rest hproceed, Effect.total_singleton]
    · rw [List.filter_cons, if_neg happ, runHooks_of_not_applies happ]
      exact ih c

/-- Hooks after a scenario run in turn, whatever they ask for. -/
theorem runActions_inTurn (actions : List HookAction) (c : Context) :
    ∃ effects, Effect.InTurn () (actions.map fun action c => (action c s).done) c effects ∧
      runActions s actions c = Effect.total () c effects := by
  induction actions generalizing c with
  | nil => exact ⟨[], .nil c, rfl⟩
  | cons action rest ih =>
    rw [List.map_cons]
    cases hresult : (action c s).result with
    | ok outcome =>
      have hdone : (action c s).done.result = .ok () := by rw [Effect.done, hresult]; rfl
      obtain ⟨effects, hturn, hrun⟩ := ih (action c s).context
      refine ⟨(action c s).done :: effects, .next (not_not_intro hdone) hturn, ?_⟩
      rw [Effect.total_cons hdone]
      simp only [runActions, hresult]
      rw [hrun]
      rfl
    | error cause =>
      have hdone : (action c s).done = ⟨(action c s).context, (action c s).journal, .error cause⟩ := by
        rw [Effect.done, hresult]
        rfl
      refine ⟨[(action c s).done], .stop (by simp [hdone]) _, ?_⟩
      rw [Effect.total_singleton, hdone]
      simp only [runActions, hresult]

/-- Hooks on the suite run in turn. -/
theorem runSuite_inTurn (actions : List SuiteEffect) :
    ∃ effects, SuiteEffect.InTurn actions effects ∧ runSuite actions = SuiteEffect.total effects := by
  induction actions with
  | nil => exact ⟨[], .nil (), rfl⟩
  | cons e rest ih =>
    cases hresult : e.result with
    | ok =>
      obtain ⟨effects, hturn, hrun⟩ := ih
      refine ⟨e :: effects, .next (not_not_intro hresult) hturn, ?_⟩
      simp only [runSuite, hresult, hrun]
      cases effects with
      | nil => simp [SuiteEffect.total, hresult]
      | cons e' effects => simp [SuiteEffect.total, List.getLast?_cons]
    | error cause =>
      refine ⟨[e], .stop (by simp [hresult]) _, ?_⟩
      rw [SuiteEffect.total_singleton]
      simp only [runSuite, hresult]

end HookTable

/-! ### Registrations -/

/-- One registration of a hook. -/
inductive Registration where
  | before (action : HookAction)
  | tagged (tag : String) (action : HookAction)
  | beforeAll (effect : SuiteEffect)
  | after (action : HookAction)
  | afterAll (effect : SuiteEffect)

namespace Registration

/-- The table with one more registration. -/
def addTo (t : HookTable) : Registration → HookTable
  | .before action => t.addBefore action
  | .tagged tag action => t.addTagged tag action
  | .beforeAll effect => t.addBeforeAll effect
  | .after action => t.addAfter action
  | .afterAll effect => t.addAfterAll effect

/-- The hook before scenarios that is registered. -/
def hook? : Registration → Option Hook
  | .before action => some ⟨none, action⟩
  | .tagged tag action => some ⟨some tag, action⟩
  | _ => none

/-- The action before the suite that is registered. -/
def beforeAll? : Registration → Option SuiteEffect
  | .beforeAll effect => some effect
  | _ => none

/-- The action after scenarios that is registered. -/
def after? : Registration → Option HookAction
  | .after action => some action
  | _ => none

/-- The action after the suite that is registered. -/
def afterAll? : Registration → Option SuiteEffect
  | .afterAll effect => some effect
  | _ => none

/-- The action that is registered to run before a scenario: one for every scenario, or one for those
that carry a tag if the scenario is one of them. -/
def callBefore? (s : Scenario) : Registration → Option (Context → Effect HookOutcome)
  | .before action => some fun c => action c s
  | .tagged tag action => if tag ∈ s.tags then some fun c => action c s else none
  | _ => none

/-- The action that is registered to run after a scenario, and does not say how to go on. -/
def callAfter? (s : Scenario) : Registration → Option (Context → Effect Unit)
  | .after action => some fun c => (action c s).done
  | _ => none

end Registration

namespace HookTable

/-- The table that some registrations fill, one after another. -/
def ofRegistrations (rs : List Registration) : HookTable :=
  rs.foldl Registration.addTo {}

/-- Every kind of hooks is kept in the order of registration, behind those that were there before. -/
theorem foldl_addTo (rs : List Registration) (t : HookTable) :
    rs.foldl Registration.addTo t = {
      before := t.before ++ rs.filterMap Registration.hook?
      beforeAll := t.beforeAll ++ rs.filterMap Registration.beforeAll?
      after := t.after ++ rs.filterMap Registration.after?
      afterAll := t.afterAll ++ rs.filterMap Registration.afterAll? } := by
  induction rs generalizing t with
  | nil => simp
  | cons r rs ih =>
    rw [List.foldl_cons, ih]
    cases r <;> simp [Registration.addTo, addBefore, addTagged, addBeforeAll, addAfter, addAfterAll,
      List.filterMap_cons, Registration.hook?, Registration.beforeAll?, Registration.after?,
      Registration.afterAll?]

theorem ofRegistrations_eq (rs : List Registration) :
    ofRegistrations rs = {
      before := rs.filterMap Registration.hook?
      beforeAll := rs.filterMap Registration.beforeAll?
      after := rs.filterMap Registration.after?
      afterAll := rs.filterMap Registration.afterAll? } := by
  rw [ofRegistrations, foldl_addTo]
  rfl

/-- The hooks that apply to a scenario are registered for every scenario or for a tag of it. -/
theorem map_filter_hooks (rs : List Registration) (s : Scenario) :
    (((rs.filterMap Registration.hook?).filter (·.appliesTo s)).map fun h c => h.action c s) =
      rs.filterMap (·.callBefore? s) := by
  rw [List.filter_filterMap, List.map_filterMap]
  refine congrArg (List.filterMap · rs) (funext fun r => ?_)
  cases r with
  | before action => rfl
  | tagged tag action =>
    have happlies : Hook.appliesTo ⟨some tag, action⟩ s = true ↔ tag ∈ s.tags := by
      show s.tags.contains tag = true ↔ _
      exact List.contains_iff_mem
    show ((some (Hook.mk (some tag) action)).filter (·.appliesTo s)).map _ = _
    rw [Option.filter_some, Registration.callBefore?]
    by_cases htag : tag ∈ s.tags
    · rw [if_pos (happlies.mpr htag), if_pos htag]
      rfl
    · rw [if_neg (mt happlies.mp htag), if_neg htag]
      rfl
  | beforeAll | after | afterAll => rfl

theorem map_actions (rs : List Registration) (s : Scenario) :
    ((rs.filterMap Registration.after?).map fun action c => (action c s).done) =
      rs.filterMap (·.callAfter? s) := by
  rw [List.map_filterMap]
  refine congrArg (List.filterMap · rs) (funext fun r => ?_)
  cases r <;> rfl

/-- **Hooks run in turn**, on a table that any registrations filled, in any context, around any
scenario.  Before the scenario those actions run that are registered for every scenario or for the text
of a tag that it carries; after it and for the suite all that are registered.  They run in the order of
registration, each in the context that the one before it left, up to and including the first that
fails, or that skips the scenario before it.  The run leaves the context that the last one left, has
all that was noted, and returns what the last one did, or else lets the scenario go on. -/
theorem runs_inTurn (rs : List Registration) (c : Context) (s : Scenario) :
    let t := ofRegistrations rs
    (∃ effects, Effect.InTurn .proceed (rs.filterMap (·.callBefore? s)) c effects ∧
      t.runBefore c s = Effect.total .proceed c effects) ∧
    (∃ effects, Effect.InTurn () (rs.filterMap (·.callAfter? s)) c effects ∧
      t.runAfter c s = Effect.total () c effects) ∧
    (∃ effects, SuiteEffect.InTurn (rs.filterMap Registration.beforeAll?) effects ∧
      t.runBeforeAll = SuiteEffect.total effects) ∧
    (∃ effects, SuiteEffect.InTurn (rs.filterMap Registration.afterAll?) effects ∧
      t.runAfterAll = SuiteEffect.total effects) := by
  intro t
  have ht : t = _ := ofRegistrations_eq rs
  refine ⟨?_, ?_, ?_, ?_⟩
  · rw [ht, ← map_filter_hooks]
    exact runHooks_inTurn _ c
  · rw [ht, ← map_actions]
    exact runActions_inTurn _ c
  · rw [ht]
    exact runSuite_inTurn _
  · rw [ht]
    exact runSuite_inTurn _

end HookTable

end ApiCheck
