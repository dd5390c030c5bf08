import ApiCheck.Proofs.Hook
import ApiCheck.Proofs.Operand
import ApiCheck.Proofs.Response.Header
import ApiCheck.Proofs.Step.Execution
import ApiCheck.Proofs.Table

/-!
# Steps about headers

A header exists if some header has its name, be its value empty or not; it equals a text if it exists
and the values of all headers of the name, put together, are that text (`header_lookup`).

A table of headers is read as a whole before anything is compared.  If it is made of pairs, it does
what the comparisons of its rows do that are executed one after another up to the first that fails
(`headers_inTurn`).
-/

namespace ApiCheck

namespace Step

open Response

variable {c : Context} {r : Response} {name : String}

/-! ### One header -/

theorem holds_headerCheck {expected : String} :
    (headerCheck r name expected).holds = true ↔
      (∃ h ∈ r.headers, SameName h.1 name) ∧
        ", ".intercalate ((named r.headers name).map Prod.snd) = expected := by
  show Operand.strictEq (r.findInHeader name) (.ofString expected) = true ↔ _
  by_cases hexists : ∃ h ∈ r.headers, SameName h.1 name
  · rw [findInHeader_of_exists hexists, Operand.strictEq_ofString_left, Operand.ofString_inj, eq_comm]
    exact (and_iff_right hexists).symm
  · -- What is not there equals no text.
    have hnone : r.findInHeader name = .undefined :=
      findInHeader_eq_undefined_iff.mpr fun h hh hsame => hexists ⟨h, hh, hsame⟩
    rw [hnone]
    exact iff_of_false Bool.false_ne_true fun h => hexists h.1

/-- The step that asks for a header passes if the lookup finds something. -/
theorem result_headerValueExist (h : c.response = some r) :
    (execute c (.headerValueExist name)).result = .ok () ↔ r.findInHeader name ≠ .undefined := by
  have hplan : plan c (.headerValueExist name) = .ok (.checks [_]) :=
    checkAt_eq_ok.mpr ⟨r, h, _, rfl, rfl⟩
  rw [execute_of_ok hplan, result_run_check, Ne, ← Operand.strictEq_undefined]
  show (!Operand.strictEq (r.findInHeader name) .undefined) = true ↔ _
  rw [Bool.not_eq_true', Bool.not_eq_true]

/-- The step that asks for the absence of a header fails if the lookup finds something. -/
theorem result_headerValueNotExist (h : c.response = some r) :
    (∃ k, (execute c (.headerValueNotExist name)).result = .error (.assertion k)) ↔
      r.findInHeader name ≠ .undefined := by
  have hplan : plan c (.headerValueNotExist name) = .ok (.checks [_]) :=
    checkAt_eq_ok.mpr ⟨r, h, _, rfl, rfl⟩
  rw [execute_of_ok hplan, result_run_check_error, Ne, ← Operand.strictEq_undefined,
    Bool.not_eq_true]
  rfl

theorem plan_headerValueEqual (h : c.response = some r) (name expected : String) :
    plan c (.headerValueEqual name expected) = .ok (.checks [headerCheck r name expected]) :=
  checkResponse_eq_ok.mpr ⟨r, h, rfl⟩

/-- **Looking headers up.**  A lookup finds nothing exactly if no header has the name, the case of ASCII
letters ignored, and otherwise the values of all headers that have it, in their order and joined by
commas.  Neither the case of the name matters nor the order of headers of different names.

So the step that asks for a header passes exactly if some header has its name, whatever its value, and
exactly if the step that asks for its absence fails.  The step that compares it passes exactly if some
header has its name and the joined values are the expected text. -/
theorem header_lookup (r : Response) (name : String) :
    (r.findInHeader name = .undefined ↔ ∀ h ∈ r.headers, ¬ SameName h.1 name) ∧
    ((∃ h ∈ r.headers, SameName h.1 name) →
      r.findInHeader name = .ofString (", ".intercalate ((named r.headers name).map Prod.snd))) ∧
    (∀ name', SameName name name' → r.findInHeader name' = r.findInHeader name) ∧
    (∀ headers', Reordered r.headers headers' →
      ({ r with headers := headers' } : Response).findInHeader name = r.findInHeader name) ∧
    (∀ c : Context, c.response = some r →
      let result (s : Step) : Except StepError Unit := (s.execute c).result
      (result (.headerValueExist name) = .ok () ↔ ∃ h ∈ r.headers, SameName h.1 name) ∧
      (result (.headerValueExist name) = .ok () ↔
        ∃ k, result (.headerValueNotExist name) = .error (.assertion k)) ∧
      (∀ expected, result (.headerValueEqual name expected) = .ok () ↔
        (∃ h ∈ r.headers, SameName h.1 name) ∧
          ", ".intercalate ((named r.headers name).map Prod.snd) = expected)) := by
  refine ⟨findInHeader_eq_undefined_iff, findInHeader_of_exists, fun name' h => h.findInHeader_eq r,
    fun headers' h => h.findInHeader_eq name, fun c hc => ?_⟩
  have hexists : r.findInHeader name ≠ .undefined ↔ ∃ h ∈ r.headers, SameName h.1 name := by
    rw [Ne, findInHeader_eq_undefined_iff]
    push Not
    rfl
  refine ⟨?_, ?_, fun expected => ?_⟩
  · exact (result_headerValueExist hc).trans hexists
  · exact (result_headerValueExist hc).trans (result_headerValueNotExist hc).symm
  · show (execute c (.headerValueEqual name expected)).result = .ok () ↔ _
    rw [execute_of_ok (plan_headerValueEqual hc name expected), result_run_check]
    exact holds_headerCheck

/-! ### A table of headers -/

/-- A table that does not read as pairs is refused. -/
theorem execute_headers_of_malformed (c : Context) {t : DataTable} {e : MalformedRow}
    (h : t.pairs = .error e) : execute c (.headers t) = ⟨c, [], .error (.table e)⟩ := by
  have hplan : plan c (.headers t) = .error (.table e) := by
    simp only [plan, h]
    rfl
  exact execute_of_error hplan

/-- A table with a row asks for the response and plans one check for each of its rows. -/
theorem plan_headers_cons (c : Context) (row : String × String) (rows : List (String × String)) :
    plan c (.headers (.ofPairs (row :: rows))) = c.needResponse >>= fun r =>
      .ok (.checks ((row :: rows).map fun row => headerCheck r row.1 row.2)) := by
  simp only [plan, DataTable.pairs_ofPairs]
  rfl

theorem plan_headers (h : c.response = some r) (rows : List (String × String)) :
    plan c (.headers (.ofPairs rows)) =
      .ok (.checks (rows.map fun row => headerCheck r row.1 row.2)) := by
  cases rows with
  | nil => rfl
  | cons row rows =>
    rw [plan_headers_cons]
    exact bind_eq_ok.mpr ⟨r, needResponse_eq_ok.mpr h, rfl⟩

/-- Without a response, a table with a row is refused as its first row is. -/
theorem execute_headers_of_noResponse (h : c.response = none) (row : String × String)
    (rows : List (String × String)) :
    execute c (.headers (.ofPairs (row :: rows))) = ⟨c, [], .error .noResponse⟩ := by
  have hplan : plan c (.headers (.ofPairs (row :: rows))) = .error .noResponse := by
    rw [plan_headers_cons]
    exact bind_eq_error.mpr (.inl (needResponse_eq_error.mpr ⟨h, rfl⟩))
  exact execute_of_error hplan

/-- The comparisons of rows, as actions. -/
def comparisons (rows : List (String × String)) : List (Context → Effect Unit) :=
  rows.map fun row c => execute c (.headerValueEqual row.1 row.2)

/-- The checks of rows are those that the comparisons of the rows make in turn. -/
theorem run_headerChecks_inTurn (h : c.response = some r) (rows : List (String × String)) :
    ∃ effects, Effect.InTurn () (comparisons rows) c effects ∧
      (Plan.checks (rows.map fun row => headerCheck r row.1 row.2)).run c =
        Effect.total () c effects := by
  induction rows with
  | nil => exact ⟨[], .nil c, rfl⟩
  | cons row rows ih =>
    have hrow : execute c (.headerValueEqual row.1 row.2) =
        (Plan.checks [headerCheck r row.1 row.2]).run c :=
      execute_of_ok (plan_headerValueEqual h row.1 row.2)
    rw [run_check] at hrow
    rw [comparisons, List.map_cons, List.map_cons]
    cases hholds : (headerCheck r row.1 row.2).holds with
    | true =>
      rw [hholds, if_pos rfl] at hrow
      have hok : (execute c (.headerValueEqual row.1 row.2)).result = .ok () := by rw [hrow]
      obtain ⟨effects, hturn, hrun⟩ := ih
      refine ⟨_ :: effects, .next (not_not_intro hok) ?_, ?_⟩
      · -- A comparison leaves the context as it is, so the others start from the same one.
        rw [hrow]
        exact hturn
      · rw [run_checks_of_holds c hholds, hrun, Effect.total_cons hok, hrow]
    | false =>
      refine ⟨[_], .stop ?_ _, ?_⟩
      · rw [hrow, hholds, if_neg Bool.false_ne_true]
        exact fun hok => nomatch hok
      · rw [run_checks_of_fails c hholds, run_check, ← hrow, Effect.total_singleton]

/-- A table of pairs does what the comparisons of its rows do in turn. -/
theorem execute_headers_inTurn (c : Context) (rows : List (String × String)) :
    ∃ effects, Effect.InTurn () (comparisons rows) c effects ∧
      execute c (.headers (.ofPairs rows)) = Effect.total () c effects := by
  cases hresponse : c.response with
  | some r =>
    rw [execute_of_ok (plan_headers hresponse rows)]
    exact run_headerChecks_inTurn hresponse rows
  | none =>
    cases rows with
    | nil => exact ⟨[], .nil c, rfl⟩
    | cons row rows =>
      have hrow : execute c (.headerValueEqual row.1 row.2) = ⟨c, [], .error .noResponse⟩ :=
        execute_of_error (checkResponse_eq_error.mpr ⟨hresponse, rfl⟩)
      rw [comparisons, List.map_cons]
      refine ⟨[_], .stop ?_ _, ?_⟩
      · rw [hrow]
        exact fun hok => nomatch hok
      · rw [execute_headers_of_noResponse hresponse, Effect.total_singleton, hrow]

/-- **Tables of headers.**  A table with a row that does not have two cells is refused for the first
such row, and no check is made, whatever the other rows hold.  Any other table is made of pairs, and
does what the comparisons of its rows do, one after another up to the first that does not pass: the
same checks in the same order, the same result and the same context.  A table reads as pairs exactly
if it is made of them. -/
theorem headers_inTurn (c : Context) (t : DataTable) :
    ((∃ row ∈ t.rows, row.length ≠ 2) →
      ∃ e, t.FirstMalformed e ∧
        (Step.headers t).execute c = ⟨c, [], .error (.table e)⟩) ∧
    ((∀ row ∈ t.rows, row.length = 2) →
      ∃ rows, t = .ofPairs rows ∧
        ∃ effects, Effect.InTurn () (comparisons rows) c effects ∧
          (Step.headers t).execute c = Effect.total () c effects) ∧
    (∀ rows, t.pairs = .ok rows ↔ t = .ofPairs rows) := by
  refine ⟨fun hmalformed => ?_, fun hcells => ?_, fun rows => DataTable.pairs_eq_ok_iff⟩
  · obtain ⟨e, he⟩ := DataTable.exists_firstMalformed hmalformed
    exact ⟨e, he, execute_headers_of_malformed c (DataTable.pairs_of_firstMalformed he)⟩
  · obtain ⟨rows, rfl⟩ := DataTable.exists_eq_ofPairs hcells
    exact ⟨rows, rfl, execute_headers_inTurn c rows⟩

end Step

end ApiCheck
