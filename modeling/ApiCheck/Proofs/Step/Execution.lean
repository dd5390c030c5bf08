import ApiCheck.Proofs.Step.Plan

/-!
# The discipline of steps

`execute_discipline` states what every step keeps to, whatever its arguments and the context.  A step
makes exactly one check, unless it is refused before, captures a value or checks the rows of a table;
every message starts with the label of the response; the check that fails a step is the last one it
made; and a step changes nothing but the value that it captures.

It all follows from `Planned`: a refused step has no effect (`execute_of_error`), and `Plan.run`
makes the planned checks up to the first that does not hold, or writes one value.
-/

namespace ApiCheck

/-! ### Contexts that differ in values -/

namespace Context

/-- The second context differs from the first in the values of the dataset at most. -/
def SameButValues (c c' : Context) : Prop :=
  c' = { c with data := { c.data with values := c'.data.values } }

theorem SameButValues.refl (c : Context) : c.SameButValues c := rfl

theorem SameButValues.trans {c c' c'' : Context} (h : c.SameButValues c')
    (h' : c'.SameButValues c'') : c.SameButValues c'' := by
  unfold SameButValues at h h' ⊢
  rw [h', h]

theorem SameButValues.skipped {c c' : Context} (h : c.SameButValues c') :
    c'.skipped = c.skipped := by
  rw [h]

end Context

namespace Step

/-! ### Checks of a plan -/

theorem checks_run (c : Context) (ks : List Check) :
    ((Plan.checks ks).run c).checks = upToFailure ks := by
  simp [Plan.run, Effect.checks, List.filterMap_map, Function.comp_def, Event.check?]

theorem upToFailure_subset (ks : List Check) : upToFailure ks ⊆ ks := by
  induction ks with
  | nil => exact fun _ h => h
  | cons k ks ih =>
    unfold upToFailure
    split
    · exact List.cons_subset_cons k ih
    · exact List.cons_subset_cons k (List.nil_subset ks)

/-- A plan of one check makes it, and its verdict is the result. -/
theorem run_check (c : Context) (k : Check) :
    (Plan.checks [k]).run c =
      ⟨c, [.checked k], if k.holds then .ok () else .error (.assertion k)⟩ := by
  cases hk : k.holds <;> simp [Plan.run, upToFailure, verdict, hk]

theorem result_run_check (c : Context) (k : Check) :
    ((Plan.checks [k]).run c).result = .ok () ↔ k.holds = true := by
  rw [run_check]
  cases k.holds <;> simp

theorem result_run_check_error {c : Context} {k : Check} :
    (∃ k', ((Plan.checks [k]).run c).result = .error (.assertion k')) ↔ k.holds = false := by
  rw [run_check]
  cases k.holds <;> simp

/-- The checks behind one that holds follow it. -/
theorem run_checks_of_holds (c : Context) {k : Check} (h : k.holds = true) (ks : List Check) :
    (Plan.checks (k :: ks)).run c = ((Plan.checks ks).run c).after [.checked k] := by
  simp [Plan.run, upToFailure, verdict, Effect.after, h]

/-- No check is made behind one that does not hold. -/
theorem run_checks_of_fails (c : Context) {k : Check} (h : k.holds = false) (ks : List Check) :
    (Plan.checks (k :: ks)).run c = (Plan.checks [k]).run c := by
  simp [Plan.run, upToFailure, verdict, h]

/-- Checks are judged by the first of them that does not hold, and it is the last one made. -/
theorem getLast?_upToFailure {ks : List Check} {k : Check}
    (h : ks.find? (fun k => !k.holds) = some k) : (upToFailure ks).getLast? = some k := by
  induction ks with
  | nil => exact nomatch h
  | cons k' ks ih =>
    unfold upToFailure
    by_cases hk : k'.holds
    · -- The check is made, and those behind it decide.
      rw [List.find?_cons_of_neg (by simp [hk])] at h
      have hlast := ih h
      rw [ite_cond_eq_true _ _ (eq_true hk), List.getLast?_cons, hlast]
      rfl
    · rw [List.find?_cons_of_pos (by simp [hk])] at h
      rw [ite_cond_eq_false _ _ (eq_false hk), List.getLast?_singleton, h]

theorem verdict_eq_assertion {ks : List Check} {e : StepError} (h : verdict ks = .error e) :
    ∃ k, e = .assertion k ∧ k ∈ ks ∧ k.holds = false ∧ (upToFailure ks).getLast? = some k := by
  unfold verdict at h
  split at h
  · exact nomatch h
  · next k hk =>
    obtain rfl := Except.error.inj h
    have hfails := List.find?_some hk
    exact ⟨k, rfl, List.mem_of_find?_eq_some hk, by simpa using hfails, getLast?_upToFailure hk⟩

/-- A condition that does not hold was `false`. -/
theorem eq_false_of_not_holds {r : Response} {k : Check} (about : k.About r)
    (hop : k.operator = .isTrue) (hk : k.holds = false) :
    k.actual = .ofBool false ∧ k.expected = .ofBool true := by
  obtain ⟨b, hactual, hexpected⟩ := about.condition hop
  refine ⟨?_, hexpected⟩
  cases b with
  | false => exact hactual
  | true => simp [Check.holds, hop, hactual, hexpected, Operand.ofBool, Operand.strictEq] at hk

/-! ### Captures -/

/-- A captured value changes the entry of its key and nothing else. -/
theorem capture_eq_ok {c c' : Context} {key : String} {v : Operand}
    (h : c.capture key v = .ok c') :
    c.SameButValues c' ∧
    ∀ k, c'.data.value? k = if k = Dataset.normalKey key then some v else c.data.value? k := by
  unfold Context.capture Dataset.set at h
  dsimp only at h
  split at h
  · next data hdata =>
    split at hdata
    · exact nomatch hdata
    · obtain rfl := Except.ok.inj hdata
      obtain rfl := Except.ok.inj h
      exact ⟨rfl, fun k => Fields.get?_insert _ k v c.data.values⟩
  · exact nomatch h

theorem capture_eq_error {c : Context} {key : String} {v : Operand} {e : StepError}
    (h : c.capture key v = .error e) : ∃ cause, e = .dataset cause := by
  unfold Context.capture at h
  split at h
  · exact nomatch h
  · next cause _ =>
    obtain rfl := Except.error.inj h
    exact ⟨cause, rfl⟩

theorem context_run_capture {c : Context} {key : String} {v : Operand} {e : StepError}
    (h : ((Plan.capture key v).run c).result = .error e) :
    ((Plan.capture key v).run c).context = c ∧ e.isAssertion = false := by
  unfold Plan.run at h ⊢
  dsimp only at h ⊢
  split at h
  · exact nomatch h
  · next cause hcause =>
    obtain rfl := Except.error.inj h
    obtain ⟨reason, rfl⟩ := capture_eq_error hcause
    exact ⟨rfl, rfl⟩

theorem checks_run_capture (c : Context) (key : String) (v : Operand) :
    ((Plan.capture key v).run c).checks = [] := by
  unfold Plan.run
  dsimp only
  split <;> rfl

/-! ### Steps -/

variable {c : Context} {s : Step}

/-- A refused step has no effect. -/
theorem execute_of_error {e : StepError} (h : s.plan c = .error e) :
    s.execute c = ⟨c, [], .error e⟩ := by
  simp only [execute, h]

/-- A step that is not refused carries out its plan. -/
theorem execute_of_ok {p : Plan} (h : s.plan c = .ok p) : s.execute c = p.run c := by
  simp only [execute, h]

/-- A step that neither captures nor checks rows makes one check, unless it is refused. -/
theorem length_checks_execute (hcapture : s.capture? = none) (htable : s.table? = none)
    (h : (s.execute c).result = .ok () ∨ ∃ k, (s.execute c).result = .error (.assertion k)) :
    (s.execute c).checks.length = 1 := by
  cases hplan : s.plan c with
  | error e =>
    -- A step that is refused neither succeeds nor fails by a check.
    have hassertion := isAssertion_of_plan hplan
    rw [execute_of_error hplan] at h
    rcases h with h | ⟨k, h⟩
    · exact nomatch h
    · obtain rfl := Except.error.inj h
      exact nomatch hassertion
  | ok p =>
    rw [execute_of_ok hplan]
    cases planned_of_plan hplan with
    | capture captures => rw [hcapture] at captures; exact nomatch captures
    | check => rw [run_check]; rfl
    | rows => exact nomatch htable

/-- A step that fails for another reason than a check made none. -/
theorem checks_execute_of_refused {e : StepError} (h : (s.execute c).result = .error e)
    (hassertion : e.isAssertion = false) : (s.execute c).checks = [] := by
  cases hplan : s.plan c with
  | error e => rw [execute_of_error hplan]; rfl
  | ok p =>
    rw [execute_of_ok hplan] at h ⊢
    cases p with
    | checks ks =>
      obtain ⟨k, rfl, -⟩ := verdict_eq_assertion h
      exact nomatch hassertion
    | capture key v => exact checks_run_capture c key v

/-- A step that captures makes no check. -/
theorem checks_execute_of_capture {l : Response.Location} {key : String}
    (h : s.capture? = some (l, key)) : (s.execute c).checks = [] := by
  cases hplan : s.plan c with
  | error e => rw [execute_of_error hplan]; rfl
  | ok p =>
    rw [execute_of_ok hplan]
    cases planned_of_plan hplan with
    | capture => exact checks_run_capture c _ _
    | check checks => rw [h] at checks; exact nomatch checks
    | rows => exact nomatch h

/-- Every check that a step makes is about the captured response. -/
theorem about_of_mem_checks {k : Check} (h : k ∈ (s.execute c).checks) :
    ∃ r, c.response = some r ∧ k.About r := by
  cases hplan : s.plan c with
  | error e => rw [execute_of_error hplan] at h; exact nomatch h
  | ok p =>
    rw [execute_of_ok hplan] at h
    cases planned_of_plan hplan with
    | capture => rw [checks_run_capture] at h; exact nomatch h
    | @check _ r k' _ _ captured about =>
      rw [checks_run] at h
      have hk := upToFailure_subset _ h
      obtain rfl := List.mem_singleton.mp hk
      exact ⟨r, captured, about⟩
    | rows about =>
      rw [checks_run] at h
      exact about k (upToFailure_subset _ h)

/-- The check that fails a step is the last one that it made. -/
theorem getLast?_checks_execute {k : Check} (h : (s.execute c).result = .error (.assertion k)) :
    (s.execute c).checks.getLast? = some k ∧ k.holds = false := by
  cases hplan : s.plan c with
  | error e =>
    have hassertion := isAssertion_of_plan hplan
    rw [execute_of_error hplan] at h
    obtain rfl := Except.error.inj h
    exact nomatch hassertion
  | ok p =>
    rw [execute_of_ok hplan] at h ⊢
    cases p with
    | checks ks =>
      obtain ⟨k', hk', -, hfails, hlast⟩ := verdict_eq_assertion h
      obtain rfl := StepError.assertion.inj hk'
      rw [checks_run]
      exact ⟨hlast, hfails⟩
    | capture key v => exact nomatch (context_run_capture h).2

/-- A step that does not capture leaves the context as it is. -/
theorem context_execute (h : s.capture? = none) : (s.execute c).context = c := by
  cases hplan : s.plan c with
  | error e => rw [execute_of_error hplan]
  | ok p =>
    rw [execute_of_ok hplan]
    cases planned_of_plan hplan with
    | capture captures => rw [h] at captures; exact nomatch captures
    | check => rfl
    | rows => rfl

/-- A step that fails leaves the context as it is. -/
theorem context_execute_of_error {e : StepError} (h : (s.execute c).result = .error e) :
    (s.execute c).context = c := by
  cases hplan : s.plan c with
  | error e => rw [execute_of_error hplan]
  | ok p =>
    rw [execute_of_ok hplan] at h ⊢
    cases p with
    | checks ks => rfl
    | capture key v => exact (context_run_capture h).1

/-- A step that captures writes the value at its location under its normal key. -/
theorem context_execute_of_capture {l : Response.Location} {key : String}
    (h : s.capture? = some (l, key)) (hok : (s.execute c).result = .ok ()) :
    ∃ r v, c.response = some r ∧ r.locate l = .ok v ∧
      c.capture key v = .ok (s.execute c).context := by
  cases hplan : s.plan c with
  | error e => rw [execute_of_error hplan] at hok; exact nomatch hok
  | ok p =>
    rw [execute_of_ok hplan] at hok ⊢
    cases planned_of_plan hplan with
    | @capture _ l' key' r v captures captured located =>
      obtain ⟨rfl, rfl⟩ : l' = l ∧ key' = key := by simpa [captures] using h
      refine ⟨r, v, captured, located, ?_⟩
      unfold Plan.run at hok ⊢
      dsimp only at hok ⊢
      split at hok
      · next c' hc' => exact hc'
      · exact nomatch hok
    | check checks => rw [h] at checks; exact nomatch checks
    | rows => exact nomatch h

/-- Whatever a step does, it changes no more than the values of the dataset. -/
theorem sameButValues_execute (c : Context) (s : Step) :
    c.SameButValues (s.execute c).context := by
  cases hresult : (s.execute c).result with
  | error e =>
    rw [context_execute_of_error hresult]
    exact .refl c
  | ok =>
    cases hcapture : s.capture? with
    | none =>
      rw [context_execute hcapture]
      exact .refl c
    | some target =>
      obtain ⟨r, v, -, -, hc⟩ := context_execute_of_capture hcapture hresult
      exact (capture_eq_ok hc).1

/-- **The discipline of steps**, for any context and any step.  A step that is refused makes no check,
nor does one that captures; every other step but `headers` makes exactly one.  Messages start with
the label of the response, and a failed check is the last one made.  A step that does not capture
leaves the context as it is, so that executing it again has the same effect; one that captures
leaves it as it is when it fails, and changes only the entry of its normal key when it succeeds. -/
theorem execute_discipline (c : Context) (s : Step) :
    let e := s.execute c
    (s.capture? = none → s.table? = none →
      (e.result = .ok () ∨ ∃ k, e.result = .error (.assertion k)) → e.checks.length = 1) ∧
    (∀ cause, e.result = .error cause → cause.isAssertion = false → e.checks = []) ∧
    (s.capture? ≠ none → e.checks = []) ∧
    (∀ k ∈ e.checks, ∃ r, c.response = some r ∧ ∃ text, k.message = r.label ++ " " ++ text) ∧
    (∀ k, e.result = .error (.assertion k) → e.checks.getLast? = some k ∧
      (k.operator = .isTrue → k.actual = .ofBool false ∧ k.expected = .ofBool true)) ∧
    (s.capture? = none → e.context = c ∧ s.execute e.context = e) ∧
    (∀ l key, s.capture? = some (l, key) →
      (∀ cause, e.result = .error cause → e.context = c) ∧
      (e.result = .ok () → ∃ r v, c.response = some r ∧ r.locate l = .ok v ∧
        e.context = { c with data := { c.data with values := e.context.data.values } } ∧
        ∀ k, e.context.data.value? k =
          if k = Dataset.normalKey key then some v else c.data.value? k)) := by
  intro e
  refine ⟨length_checks_execute, fun cause => checks_execute_of_refused, fun h => ?_,
    fun k hk => ?_, fun k hk => ?_, fun h => ?_, fun l key h => ⟨fun cause => ?_, fun hok => ?_⟩⟩
  · obtain ⟨⟨l, key⟩, h⟩ := Option.ne_none_iff_exists'.mp h
    exact checks_execute_of_capture h
  · obtain ⟨r, hr, about⟩ := about_of_mem_checks hk
    exact ⟨r, hr, about.message⟩
  · obtain ⟨hlast, hfails⟩ := getLast?_checks_execute hk
    obtain ⟨r, -, about⟩ := about_of_mem_checks (List.mem_of_getLast? hlast)
    exact ⟨hlast, fun hop => eq_false_of_not_holds about hop hfails⟩
  · have hc := context_execute (c := c) h
    exact ⟨hc, congrArg s.execute hc⟩
  · exact context_execute_of_error
  · obtain ⟨r, v, hr, hv, hc⟩ := context_execute_of_capture h hok
    exact ⟨r, v, hr, hv, capture_eq_ok hc⟩

end Step

end ApiCheck
