import ApiCheck.Proofs.Step.Capture
import ApiCheck.Proofs.Template.Render

/-!
# Comparing with a text

The argument of a step denotes the value that is stored under a name if it is one reference to it, and
itself otherwise (`Context.Denotes`).  A step that compares a node with a text compares it with what
the text denotes, but for the words `true`, `false` and `null`: denoting one of them redirects the step
to the one that asks for the value of this name (`Step.shouldBeString_redirects`).
-/

namespace ApiCheck

/-! ### Arguments -/

/-- `c.Denotes s w`: in the context `c`, the argument `s` denotes `w`. -/
inductive Context.Denotes (c : Context) (s : String) : Operand → Prop
  /-- A text that is not one reference denotes itself. -/
  | literal (h : ∀ name, ¬ Template.Whole s name) : Denotes c s (.ofString s)
  /-- A reference denotes the value that is stored, of whichever type. -/
  | stored {name : String} {value : Operand} (h : Template.Whole s name)
      (hvalue : c.data.value? name = some value) : Denotes c s value

namespace Context

variable {c : Context} {s : String} {w : Operand}

theorem resolve_of_whole {name : String} (h : Template.Whole s name) :
    c.resolve s = (c.data.value? name).elim (.error (.dataset (.unknownKey name))) .ok := by
  have hkey := Template.key?_eq_some_iff_whole.mpr h
  simp only [resolve, Dataset.resolve, Template.isPlaceholder, hkey, Option.isSome_some, if_true,
    Dataset.get, Template.render_of_key? hkey]
  cases c.data.value? name <;> rfl

/-- An argument resolves to what it denotes, and to nothing else. -/
theorem resolve_eq_ok_iff : c.resolve s = .ok w ↔ c.Denotes s w := by
  cases hkey : Template.key? s with
  | none =>
    have hliteral : ∀ name, ¬ Template.Whole s name := fun name hwhole => by
      rw [Template.key?_eq_some_iff_whole.mpr hwhole] at hkey
      cases hkey
    rw [Step.resolve_of_key?_eq_none hkey, Except.ok.injEq]
    constructor
    · rintro rfl
      exact .literal hliteral
    · rintro (- | ⟨hwhole, -⟩)
      · rfl
      · exact absurd hwhole (hliteral _)
  | some name =>
    have hwhole := Template.key?_eq_some_iff_whole.mp hkey
    constructor
    · intro h
      rw [resolve_of_whole hwhole] at h
      cases hvalue : c.data.value? name with
      | none =>
        rw [hvalue] at h
        cases h
      | some value =>
        rw [hvalue] at h
        obtain rfl := Except.ok.inj h
        exact .stored hwhole hvalue
    · rintro (hliteral | ⟨hwhole', hvalue⟩)
      · exact absurd hwhole (hliteral name)
      · rw [resolve_of_whole hwhole', hvalue]
        rfl

/-- The texts that denote themselves. -/
theorem denotes_self_iff :
    c.Denotes s (.ofString s) ↔ (∀ name, ¬ Template.Whole s name) ∨
      ∃ name, Template.Whole s name ∧ c.data.value? name = some (.ofString s) := by
  constructor
  · intro h
    cases h with
    | literal h => exact .inl h
    | stored h hvalue => exact .inr ⟨_, h, hvalue⟩
  · rintro (h | ⟨name, h, hvalue⟩)
    · exact .literal h
    · exact .stored h hvalue

end Context

namespace Step

variable {c : Context} {r : Response} {path argument s : String} {v w : Operand}

/-- Steps that plan the same do the same. -/
theorem execute_congr {s s' : Step} (h : s.plan c = s'.plan c) : s.execute c = s'.execute c := by
  simp only [execute, h]

theorem plan_shouldBeString (path : String) (h : c.Denotes argument w) :
    plan c (.shouldBeString path argument) =
      checkAt c (.node path) fun r actual => nodeCheck r path actual (keyword w) := by
  simp only [plan, Context.resolve_eq_ok_iff.mpr h]
  rfl

/-- Where a value is found at the path, it is checked to equal what the argument stands for. -/
theorem plan_shouldBeString_of_located (hresponse : c.response = some r)
    (hpath : r.findInBody path = .ok v) (h : c.Denotes argument w) :
    plan c (.shouldBeString path argument) =
      .ok (.checks [nodeCheck r path v (keyword w)]) := by
  rw [plan_shouldBeString path h]
  exact checkAt_eq_ok.mpr ⟨r, hresponse, v, hpath, rfl⟩

/-- Whether a text equals what a text stands for. -/
theorem strictEq_ofString_keyword :
    Operand.strictEq (.ofString s) (keyword w) = true ↔ w = .ofString s ∧ ¬ Keyword s := by
  by_cases h : ∀ t, w = .ofString t → ¬ Keyword t
  · rw [keyword_eq_self h, Operand.strictEq_ofString_left]
    exact ⟨fun hw => ⟨hw, h s hw⟩, And.left⟩
  · push Not at h
    obtain ⟨t, rfl, hword⟩ := h
    -- A word stands for a value that is no text.
    refine iff_of_false ?_ fun ⟨ht, hs⟩ => hs (Operand.ofString_inj.mp ht ▸ hword)
    rcases hword with rfl | rfl | rfl <;> exact Bool.false_ne_true

/-- Where a value is found at the path, the step passes if the argument denotes something that stands
for an equal value. -/
theorem result_shouldBeString (hresponse : c.response = some r)
    (hpath : r.findInBody path = .ok v) :
    (execute c (.shouldBeString path argument)).result = .ok () ↔
      ∃ w, c.Denotes argument w ∧ v.strictEq (keyword w) = true := by
  cases hresolve : c.resolve argument with
  | error e =>
    have hplan : plan c (.shouldBeString path argument) = .error e := by
      simp only [plan, hresolve]
      rfl
    refine iff_of_false ?_ fun ⟨w, hw, _⟩ => ?_
    · rw [execute_of_error hplan]
      exact fun hok => nomatch hok
    · rw [Context.resolve_eq_ok_iff.mpr hw] at hresolve
      cases hresolve
  | ok w =>
    have hw : c.Denotes argument w := Context.resolve_eq_ok_iff.mp hresolve
    rw [result_execute_nodeCheck (plan_shouldBeString_of_located hresponse hpath hw)]
    constructor
    · exact fun h => ⟨w, hw, h⟩
    · rintro ⟨w', hw', h⟩
      -- An argument denotes one value at most.
      rw [← Context.resolve_eq_ok_iff, hresolve, Except.ok.injEq] at hw'
      rwa [hw']

/-- **Comparing with a text.**  An argument that denotes one of the words `true`, `false` and `null`
has the effect of the step that asks for this value, whatever becomes of it.  One that denotes anything
else, of whichever type, makes one check, that the value at the path equals it.

So a text that stands at the path passes as the argument exactly if it is none of the three words and
is not one reference, or is one to a copy of itself. -/
theorem shouldBeString_redirects (c : Context) (path argument : String) :
    (c.Denotes argument (.ofString "true") →
      (Step.shouldBeString path argument).execute c = (Step.shouldBeTrue path).execute c) ∧
    (c.Denotes argument (.ofString "false") →
      (Step.shouldBeString path argument).execute c = (Step.shouldBeFalse path).execute c) ∧
    (c.Denotes argument (.ofString "null") →
      (Step.shouldBeString path argument).execute c = (Step.shouldBeNull path).execute c) ∧
    (∀ r v w, c.response = some r → r.findInBody path = .ok v → c.Denotes argument w →
      (∀ s, w = .ofString s → ¬ Keyword s) →
      let check := nodeCheck r path v w
      check.operator = .strictEqual ∧ check.actual = v ∧ check.expected = w ∧
        (Step.shouldBeString path argument).execute c =
          ⟨c, [.checked check], if v.strictEq w then .ok () else .error (.assertion check)⟩) ∧
    (∀ r, c.response = some r → r.findInBody path = .ok (.ofString argument) →
      (((Step.shouldBeString path argument).execute c).result = .ok () ↔
        ¬ Keyword argument ∧ ((∀ name, ¬ Template.Whole argument name) ∨
          ∃ name, Template.Whole argument name ∧
            c.data.value? name = some (.ofString argument)))) := by
  refine ⟨fun h => execute_congr (plan_shouldBeString path h),
    fun h => execute_congr (plan_shouldBeString path h),
    fun h => execute_congr (plan_shouldBeString path h),
    fun r v w hresponse hpath h hw => ⟨rfl, rfl, rfl, ?_⟩, fun r hresponse hpath => ?_⟩
  · have hplan := plan_shouldBeString_of_located hresponse hpath h
    rw [keyword_eq_self hw] at hplan
    exact (execute_of_ok hplan).trans (run_check c _)
  · rw [← Context.denotes_self_iff, result_shouldBeString hresponse hpath]
    constructor
    · rintro ⟨w, hw, hequal⟩
      obtain ⟨rfl, hword⟩ := strictEq_ofString_keyword.mp hequal
      exact ⟨hword, hw⟩
    · rintro ⟨hword, h⟩
      exact ⟨_, h, strictEq_ofString_keyword.mpr ⟨rfl, hword⟩⟩

end Step

end ApiCheck
