import ApiCheck.Step.Execution

/-!
# What steps plan

`Planned c s p` lists everything that a step `s` may plan in a context `c`: to capture the value at its
location, to make one check of the response, or to make the checks of the rows of its table.  Every
plan is one of these (`planned_of_plan`), and a step that is refused is refused for another reason
than a check (`isAssertion_of_plan`).

The lemmas on `checkResponse`, `checkAt` and `captureAt` say when these give a plan and which.
-/

namespace ApiCheck

/-! ### Checks about a response -/

/-- The check is about the response: its message starts with the label and one blank, and a condition
is checked against `true`. -/
structure Check.About (r : Response) (k : Check) : Prop where
  message : ∃ text, k.message = r.label ++ " " ++ text
  condition : k.operator = .isTrue → ∃ b, k.actual = .ofBool b ∧ k.expected = .ofBool true

namespace Step

theorem about_equal (r : Response) (actual expected : Operand) (text : String) :
    (Check.equal actual expected (about r text)).About r :=
  ⟨⟨text, rfl⟩, fun h => nomatch h⟩

theorem about_notEqual (r : Response) (actual expected : Operand) (text : String) :
    (Check.notEqual actual expected (about r text)).About r :=
  ⟨⟨text, rfl⟩, fun h => nomatch h⟩

theorem about_isTrue (r : Response) (condition : Bool) (text : String) :
    (Check.isTrue condition (about r text)).About r :=
  ⟨⟨text, rfl⟩, fun _ => ⟨condition, rfl, rfl⟩⟩

theorem about_headerCheck (r : Response) (name expected : String) :
    (headerCheck r name expected).About r :=
  about_equal r _ _ _

theorem about_nodeCheck (r : Response) (path : String) (actual expected : Operand) :
    (nodeCheck r path actual expected).About r :=
  about_equal r _ _ _

/-! ### Kinds of steps -/

/-- The location whose value a step captures, and the key under which it does. -/
def capture? : Step → Option (Response.Location × String)
  | .addHeaderPropertyToDataset name key => some (.header name, key)
  | .addBodyPropertyToDataset path key => some (.node path, key)
  | _ => none

/-- The table of a step that makes a check for each row. -/
def table? : Step → Option DataTable
  | .headers table => some table
  | _ => none

/-! ### Sequencing -/

theorem bind_eq_ok {ε α β : Type} {first : Except ε α} {next : α → Except ε β} {b : β} :
    first >>= next = .ok b ↔ ∃ a, first = .ok a ∧ next a = .ok b := by
  cases first with
  | ok a => simp [bind, Except.bind]
  | error e => simp [bind, Except.bind]

theorem bind_eq_error {ε α β : Type} {first : Except ε α} {next : α → Except ε β} {e : ε} :
    first >>= next = .error e ↔ first = .error e ∨ ∃ a, first = .ok a ∧ next a = .error e := by
  cases first with
  | ok a => simp [bind, Except.bind]
  | error e => simp [bind, Except.bind]

theorem mapError_eq_ok {δ ε α : Type} {result : Except δ α} {wrap : δ → ε} {a : α} :
    result.mapError wrap = .ok a ↔ result = .ok a := by
  cases result with
  | ok b =>
    show Except.ok b = .ok a ↔ _
    rw [Except.ok.injEq, Except.ok.injEq]
  | error cause => exact ⟨(nomatch ·), (nomatch ·)⟩

theorem mapError_eq_error {δ ε α : Type} {result : Except δ α} {wrap : δ → ε} {e : ε} :
    result.mapError wrap = .error e ↔ ∃ cause, result = .error cause ∧ wrap cause = e := by
  cases result with
  | ok a =>
    constructor
    · exact (nomatch ·)
    · rintro ⟨_, h, -⟩
      exact nomatch h
  | error cause =>
    constructor
    · intro h
      exact ⟨cause, rfl, Except.error.inj h⟩
    · rintro ⟨_, ⟨⟩, rfl⟩
      rfl

theorem needResponse_eq_ok {c : Context} {r : Response} :
    c.needResponse = .ok r ↔ c.response = some r := by
  unfold Context.needResponse
  cases c.response <;> simp

theorem needResponse_eq_error {c : Context} {e : StepError} :
    c.needResponse = .error e ↔ c.response = none ∧ e = .noResponse := by
  unfold Context.needResponse
  cases c.response <;> simp [eq_comm]

/-! ### Plans of one check or one capture -/

variable {c : Context} {l : Response.Location} {p : Plan} {e : StepError}

theorem checkResponse_eq_ok {make : Response → Check} :
    checkResponse c make = .ok p ↔ ∃ r, c.response = some r ∧ .checks [make r] = p := by
  simp only [checkResponse, bind_eq_ok, needResponse_eq_ok, pure, Except.pure, Except.ok.injEq]

theorem checkAt_eq_ok {make : Response → Operand → Check} :
    checkAt c l make = .ok p ↔
      ∃ r, c.response = some r ∧ ∃ v, r.locate l = .ok v ∧ .checks [make r v] = p := by
  simp only [checkAt, locate, bind_eq_ok, needResponse_eq_ok, mapError_eq_ok, pure, Except.pure,
    Except.ok.injEq]

theorem captureAt_eq_ok {key : String} :
    captureAt c l key = .ok p ↔
      ∃ r, c.response = some r ∧ ∃ v, r.locate l = .ok v ∧ .capture key v = p := by
  simp only [captureAt, locate, bind_eq_ok, needResponse_eq_ok, mapError_eq_ok, pure, Except.pure,
    Except.ok.injEq]

theorem checkResponse_eq_error {make : Response → Check} :
    checkResponse c make = .error e ↔ c.response = none ∧ e = .noResponse := by
  simp only [checkResponse, bind_eq_error, needResponse_eq_error, pure, Except.pure, reduceCtorEq,
    and_false, exists_false, or_false]

theorem checkAt_eq_error {make : Response → Operand → Check} :
    checkAt c l make = .error e ↔ (c.response = none ∧ e = .noResponse) ∨
      ∃ r, c.response = some r ∧ ∃ cause, r.locate l = .error cause ∧ .lookup cause = e := by
  simp only [checkAt, locate, bind_eq_error, needResponse_eq_ok, needResponse_eq_error,
    mapError_eq_error, pure, Except.pure, reduceCtorEq, and_false, exists_false, or_false]

theorem captureAt_eq_error {key : String} :
    captureAt c l key = .error e ↔ (c.response = none ∧ e = .noResponse) ∨
      ∃ r, c.response = some r ∧ ∃ cause, r.locate l = .error cause ∧ .lookup cause = e := by
  simp only [captureAt, locate, bind_eq_error, needResponse_eq_ok, needResponse_eq_error,
    mapError_eq_error, pure, Except.pure, reduceCtorEq, and_false, exists_false, or_false]

/-! ### Plans of steps -/

/-- What a step plans in a context. -/
inductive Planned (c : Context) : Step → Plan → Prop
  | capture {s : Step} {l : Response.Location} {key : String} {r : Response} {v : Operand}
      (captures : s.capture? = some (l, key)) (captured : c.response = some r)
      (located : r.locate l = .ok v) : Planned c s (.capture key v)
  | check {s : Step} {r : Response} {k : Check} (checks : s.capture? = none)
      (single : s.table? = none) (captured : c.response = some r) (about : k.About r) :
      Planned c s (.checks [k])
  | rows {table : DataTable} {ks : List Check}
      (about : ∀ k ∈ ks, ∃ r, c.response = some r ∧ k.About r) :
      Planned c (.headers table) (.checks ks)

theorem planned_checkResponse {s : Step} {make : Response → Check}
    (checks : s.capture? = none) (single : s.table? = none) (about : ∀ r, (make r).About r)
    (h : checkResponse c make = .ok p) : Planned c s p := by
  obtain ⟨r, hr, rfl⟩ := checkResponse_eq_ok.mp h
  exact .check checks single hr (about r)

theorem planned_checkAt {s : Step} {make : Response → Operand → Check}
    (checks : s.capture? = none) (single : s.table? = none) (about : ∀ r v, (make r v).About r)
    (h : checkAt c l make = .ok p) : Planned c s p := by
  obtain ⟨r, hr, v, -, rfl⟩ := checkAt_eq_ok.mp h
  exact .check checks single hr (about r v)

theorem planned_captureAt {s : Step} {key : String} (captures : s.capture? = some (l, key))
    (h : captureAt c l key = .ok p) : Planned c s p := by
  obtain ⟨r, hr, v, hv, rfl⟩ := captureAt_eq_ok.mp h
  exact .capture captures hr hv

theorem planned_headers {table : DataTable} (h : plan c (.headers table) = .ok p) :
    Planned c (.headers table) p := by
  unfold plan at h
  obtain ⟨rows, -, h⟩ := bind_eq_ok.mp h
  cases rows with
  | nil =>
    obtain rfl := Except.ok.inj h
    exact .rows fun k hk => nomatch hk
  | cons row rows =>
    -- Only a table with rows needs a response.
    obtain ⟨r, hr, h⟩ := bind_eq_ok.mp h
    obtain rfl := Except.ok.inj h
    refine .rows fun k hk => ⟨r, needResponse_eq_ok.mp hr, ?_⟩
    obtain ⟨row, -, rfl⟩ := List.mem_map.mp hk
    exact about_headerCheck r row.1 row.2

/-- Every plan of a step is one that `Planned` lists. -/
theorem planned_of_plan {s : Step} (h : s.plan c = .ok p) : Planned c s p := by
  cases s with
  | httpCode => exact planned_checkResponse rfl rfl (fun r => about_equal r _ _ _) h
  | httpTiming => exact planned_checkResponse rfl rfl (fun r => about_isTrue r _ _) h
  | headerValueExist => exact planned_checkAt rfl rfl (fun r _ => about_notEqual r _ _ _) h
  | headerValueNotExist => exact planned_checkAt rfl rfl (fun r _ => about_equal r _ _ _) h
  | headerValueEqual => exact planned_checkResponse rfl rfl (fun r => about_headerCheck r _ _) h
  | headers => exact planned_headers h
  | shouldBeEmptyArrayResponse => exact planned_checkAt rfl rfl (fun r _ => about_equal r _ _ _) h
  | shouldNotBeEmptyArrayResponse =>
    exact planned_checkAt rfl rfl (fun r _ => about_notEqual r _ _ _) h
  | shouldBeEmptyResponse => exact planned_checkAt rfl rfl (fun r _ => about_equal r _ _ _) h
  | shouldBeNumber =>
    unfold plan at h
    obtain ⟨r, hr, h⟩ := bind_eq_ok.mp h
    obtain ⟨expected, -, h⟩ := bind_eq_ok.mp h
    obtain ⟨actual, -, h⟩ := bind_eq_ok.mp h
    obtain rfl := Except.ok.inj h
    exact .check rfl rfl (needResponse_eq_ok.mp hr) (about_nodeCheck r _ _ _)
  | shouldBeTrue => exact planned_checkAt rfl rfl (fun r _ => about_nodeCheck r _ _ _) h
  | shouldBeFalse => exact planned_checkAt rfl rfl (fun r _ => about_nodeCheck r _ _ _) h
  | shouldBeNull => exact planned_checkAt rfl rfl (fun r _ => about_nodeCheck r _ _ _) h
  | shouldBeString =>
    -- The expected text is resolved before the response is looked at.
    unfold plan at h
    obtain ⟨expected, -, h⟩ := bind_eq_ok.mp h
    exact planned_checkAt rfl rfl (fun r _ => about_nodeCheck r _ _ _) h
  | shouldBeEmpty => exact planned_checkAt rfl rfl (fun r _ => about_equal r _ _ _) h
  | shouldNotBeNull => exact planned_checkAt rfl rfl (fun r _ => about_notEqual r _ _ _) h
  | shouldBeArraySize => exact planned_checkAt rfl rfl (fun r _ => about_equal r _ _ _) h
  | shouldBeAnArray => exact planned_checkAt rfl rfl (fun r _ => about_isTrue r _ _) h
  | shouldBeAnArrayOfXItems => exact planned_checkAt rfl rfl (fun r _ => about_equal r _ _ _) h
  | shouldMatch =>
    unfold plan at h
    obtain ⟨r, -, h⟩ := bind_eq_ok.mp h
    split at h
    · exact nomatch h
    · exact planned_checkAt rfl rfl (fun r _ => about_isTrue r _ _) h
  | shouldBeNow => exact planned_checkAt rfl rfl (fun r _ => about_isTrue r _ _) h
  | addHeaderPropertyToDataset => exact planned_captureAt rfl h
  | addBodyPropertyToDataset => exact planned_captureAt rfl h

/-! ### Refused steps -/

theorem isAssertion_needResponse (h : c.needResponse = .error e) : e.isAssertion = false := by
  obtain ⟨-, rfl⟩ := needResponse_eq_error.mp h
  rfl

theorem isAssertion_resolve {text : String} (h : c.resolve text = .error e) :
    e.isAssertion = false := by
  obtain ⟨cause, -, rfl⟩ := mapError_eq_error.mp h
  rfl

theorem isAssertion_locate {r : Response} (h : locate r l = .error e) : e.isAssertion = false := by
  obtain ⟨cause, -, rfl⟩ := mapError_eq_error.mp h
  rfl

theorem isAssertion_checkResponse {make : Response → Check}
    (h : checkResponse c make = .error e) : e.isAssertion = false := by
  obtain ⟨-, rfl⟩ := checkResponse_eq_error.mp h
  rfl

theorem isAssertion_checkAt {make : Response → Operand → Check}
    (h : checkAt c l make = .error e) : e.isAssertion = false := by
  rcases checkAt_eq_error.mp h with ⟨-, rfl⟩ | ⟨r, -, cause, -, rfl⟩ <;> rfl

theorem isAssertion_captureAt {key : String} (h : captureAt c l key = .error e) :
    e.isAssertion = false := by
  rcases captureAt_eq_error.mp h with ⟨-, rfl⟩ | ⟨r, -, cause, -, rfl⟩ <;> rfl

theorem isAssertion_headers {table : DataTable} (h : plan c (.headers table) = .error e) :
    e.isAssertion = false := by
  unfold plan at h
  rcases bind_eq_error.mp h with h | ⟨rows, -, h⟩
  · obtain ⟨cause, -, rfl⟩ := mapError_eq_error.mp h
    rfl
  · cases rows with
    | nil => exact nomatch h
    | cons row rows =>
      rcases bind_eq_error.mp h with h | ⟨r, -, h⟩
      · exact isAssertion_needResponse h
      · exact nomatch h

theorem isAssertion_shouldBeNumber {path expected : String}
    (h : plan c (.shouldBeNumber path expected) = .error e) : e.isAssertion = false := by
  unfold plan at h
  rcases bind_eq_error.mp h with h | ⟨r, -, h⟩
  · exact isAssertion_needResponse h
  rcases bind_eq_error.mp h with h | ⟨value, -, h⟩
  · exact isAssertion_resolve h
  rcases bind_eq_error.mp h with h | ⟨actual, -, h⟩
  · exact isAssertion_locate h
  · exact nomatch h

theorem isAssertion_shouldMatch {path pattern : String}
    (h : plan c (.shouldMatch path pattern) = .error e) : e.isAssertion = false := by
  unfold plan at h
  rcases bind_eq_error.mp h with h | ⟨r, -, h⟩
  · exact isAssertion_needResponse h
  split at h
  · obtain rfl := Except.error.inj h
    rfl
  · exact isAssertion_checkAt h

/-- No check is the reason why a step is refused. -/
theorem isAssertion_of_plan {s : Step} (h : s.plan c = .error e) : e.isAssertion = false := by
  cases s with
  | httpCode | httpTiming | headerValueEqual => exact isAssertion_checkResponse h
  | headers => exact isAssertion_headers h
  | shouldBeNumber => exact isAssertion_shouldBeNumber h
  | shouldBeString =>
    unfold plan at h
    rcases bind_eq_error.mp h with h | ⟨value, -, h⟩
    · exact isAssertion_resolve h
    · exact isAssertion_checkAt h
  | shouldMatch => exact isAssertion_shouldMatch h
  | addHeaderPropertyToDataset | addBodyPropertyToDataset => exact isAssertion_captureAt h
  | headerValueExist | headerValueNotExist | shouldBeEmptyArrayResponse
  | shouldNotBeEmptyArrayResponse | shouldBeEmptyResponse | shouldBeTrue | shouldBeFalse
  | shouldBeNull | shouldBeEmpty | shouldNotBeNull | shouldBeArraySize | shouldBeAnArray
  | shouldBeAnArrayOfXItems | shouldBeNow => exact isAssertion_checkAt h

end Step

end ApiCheck
