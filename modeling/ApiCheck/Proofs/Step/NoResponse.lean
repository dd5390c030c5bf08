import ApiCheck.Proofs.Step.Execution

/-!
# Steps without a response

As long as no response was captured a step neither checks nor captures anything, and it is refused
(`refused_of_plan`).  There is one exception: a step that compares the headers of a table without rows
has nothing to look up and passes (`execute_without_response`).

A step is refused for the missing response unless something that it looks at earlier is amiss: the
rows of a table, or the value that a string is compared with.
-/

namespace ApiCheck

namespace DataTable

/-- Only a table without rows has no pairs. -/
theorem pairs_eq_nil {t : DataTable} : t.pairs = .ok [] ↔ t = ⟨[]⟩ := by
  constructor
  · intro h
    exact (ofPairs_of_pairs h).symm
  · rintro rfl
    rfl

end DataTable

namespace Step

/-- Why a step is refused in a context without a response. -/
inductive Refused (c : Context) : Step → StepError → Prop
  /-- There is nothing to look into. -/
  | noResponse (s : Step) : Refused c s .noResponse
  /-- A row of the table is malformed. -/
  | table {t : DataTable} {cause : MalformedRow} (h : t.pairs = .error cause) :
      Refused c (.headers t) (.table cause)
  /-- The value to compare with is unknown. -/
  | expected {path text : String} {cause : DatasetError} (h : c.data.resolve text = .error cause) :
      Refused c (.shouldBeString path text) (.dataset cause)

variable {c : Context} {s : Step} {e : StepError}

/-! ### Plans -/

/-- Without a response nothing but the checks of a table without rows is planned. -/
theorem eq_headers_of_plan {p : Plan} (hc : c.response = none) (h : s.plan c = .ok p) :
    s = .headers ⟨[]⟩ ∧ p = .checks [] := by
  cases planned_of_plan h with
  | capture captures captured => rw [hc] at captured; exact nomatch captured
  | check checks single captured => rw [hc] at captured; exact nomatch captured
  | @rows t ks about =>
    unfold plan at h
    obtain ⟨rows, hrows, h⟩ := bind_eq_ok.mp h
    cases rows with
    | nil =>
      obtain rfl := DataTable.pairs_eq_nil.mp (mapError_eq_ok.mp hrows)
      exact ⟨rfl, (Except.ok.inj h).symm⟩
    | cons row rows =>
      -- A row needs a response.
      obtain ⟨r, hr, -⟩ := bind_eq_ok.mp h
      rw [needResponse_eq_ok, hc] at hr
      exact nomatch hr

/-- What starts by looking at the response goes no further. -/
theorem refused_of_needResponse (hc : c.response = none) {next : Response → Except StepError Plan}
    (h : (c.needResponse >>= next) = .error e) : Refused c s e := by
  rcases bind_eq_error.mp h with hnone | ⟨r, hr, -⟩
  · obtain ⟨-, rfl⟩ := needResponse_eq_error.mp hnone
    exact .noResponse s
  · rw [needResponse_eq_ok, hc] at hr
    exact nomatch hr

/-- Every refusal without a response is one that `Refused` lists. -/
theorem refused_of_plan (hc : c.response = none) (h : s.plan c = .error e) : Refused c s e := by
  cases s with
  | headers t =>
    unfold plan at h
    rcases bind_eq_error.mp h with h | ⟨rows, -, h⟩
    · obtain ⟨cause, hpairs, rfl⟩ := mapError_eq_error.mp h
      exact .table hpairs
    · cases rows with
      | nil => exact nomatch h
      | cons row rows => exact refused_of_needResponse hc h
  | shouldBeString path text =>
    -- The expected text is resolved before the response is looked at.
    unfold plan at h
    rcases bind_eq_error.mp h with h | ⟨value, -, h⟩
    · obtain ⟨cause, hresolve, rfl⟩ := mapError_eq_error.mp h
      exact .expected hresolve
    · exact refused_of_needResponse hc h
  | httpCode | httpTiming | headerValueExist | headerValueNotExist | headerValueEqual
  | shouldBeEmptyArrayResponse | shouldNotBeEmptyArrayResponse | shouldBeEmptyResponse
  | shouldBeNumber | shouldBeTrue | shouldBeFalse | shouldBeNull | shouldBeEmpty | shouldNotBeNull
  | shouldBeArraySize | shouldBeAnArray | shouldBeAnArrayOfXItems | shouldMatch | shouldBeNow
  | addHeaderPropertyToDataset | addBodyPropertyToDataset => exact refused_of_needResponse hc h

/-! ### Effects -/

/-- **Steps without a response.**  No check is made and the context stays as it is.  The step passes
exactly if it compares the headers of a table without rows; every other step is refused. -/
theorem execute_without_response (hc : c.response = none) (s : Step) :
    (s.execute c).checks = [] ∧ (s.execute c).context = c ∧
    ((s.execute c).result = .ok () ↔ s = .headers ⟨[]⟩) ∧
    (s ≠ .headers ⟨[]⟩ → ∃ e, (s.execute c).result = .error e ∧ Refused c s e) := by
  cases hplan : s.plan c with
  | ok p =>
    obtain ⟨rfl, rfl⟩ := eq_headers_of_plan hc hplan
    rw [execute_of_ok hplan]
    exact ⟨rfl, rfl, ⟨fun _ => rfl, fun _ => rfl⟩, fun hne => absurd rfl hne⟩
  | error e =>
    have hrefused := refused_of_plan hc hplan
    rw [execute_of_error hplan]
    refine ⟨rfl, rfl, ⟨nofun, ?_⟩, fun _ => ⟨e, rfl, hrefused⟩⟩
    rintro rfl
    exact nomatch hplan

/-- A table with a malformed row is refused, also where there is no response. -/
theorem execute_without_response_malformed :
    let c : Context := { now := ⟨0, 0, 0⟩ }
    let s : Step := .headers ⟨[["x-request-id", "7"], ["x-request-id"]]⟩
    c.response = none ∧ (s.execute c).checks = [] ∧ (s.execute c).context = c ∧
      (s.execute c).result ≠ .ok () ∧ ∃ e, (s.execute c).result = .error e ∧ Refused c s e := by
  intro c s
  have hs : s ≠ .headers ⟨[]⟩ := by decide
  obtain ⟨hchecks, hcontext, hpass, hrefused⟩ := execute_without_response (c := c) rfl s
  exact ⟨rfl, hchecks, hcontext, fun hok => hs (hpass.mp hok), hrefused hs⟩

/-- The headers of a table without rows are found to be right where there is no response. -/
theorem headers_pass_without_response :
    let c : Context := { now := ⟨0, 0, 0⟩ }
    c.response = none ∧ ((Step.headers ⟨[]⟩).execute c).result = .ok () :=
  ⟨rfl, rfl⟩

end Step

end ApiCheck
