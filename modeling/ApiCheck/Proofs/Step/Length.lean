import ApiCheck.Proofs.Step.Capture

/-!
# What the steps about lists accept

Four steps are about lists: that the body is empty, that it is not, that it has a number of items, and
that a node has.  All of them look at nothing but a length, and a text has a length too, in units of
UTF-16.  So the three steps that ask for a length pass on texts of that length as well, and the one that
asks for another length than zero passes on all that is neither empty list nor empty text, a missing
body among it (`passes_iff_length`).  They accept only lists exactly where no text is looked at, and the
last one where the body is a list or the empty text.
-/

namespace ApiCheck

namespace Operand

/-- The operand is an array of `n` items. -/
def ListOf (x : Operand) (n : Nat) : Prop :=
  ∃ items, x = .json (.array items) ∧ items.length = n

/-- The operand is a text of `n` units of UTF-16. -/
def TextOf (x : Operand) (n : Nat) : Prop :=
  ∃ s, x = .ofString s ∧ Text.utf16Size s.toList = n

theorem ListOf.not_textOf {x : Operand} {m n : Nat} (h : x.ListOf m) : ¬ x.TextOf n := by
  obtain ⟨items, rfl, -⟩ := h
  rintro ⟨s, hs, -⟩
  cases hs

theorem TextOf.not_listOf {x : Operand} {m n : Nat} (h : x.TextOf m) : ¬ x.ListOf n :=
  fun hlist => hlist.not_textOf h

theorem strictEq_ofNat (m n : Nat) : strictEq (.ofNat m) (.ofNat n) = true ↔ m = n := by
  show ((m : Int) == n) = true ↔ m = n
  rw [beq_iff_eq, Int.natCast_inj]

/-- An operand has the length `n` if it is a list of `n` items or a text of `n` units. -/
theorem strictEq_length {x : Operand} {n : Nat} :
    strictEq x.length (.ofNat n) = true ↔ x.ListOf n ∨ x.TextOf n := by
  unfold length
  split
  · next items =>
    rw [strictEq_ofNat]
    refine ⟨fun h => .inl ⟨items, rfl, h⟩, ?_⟩
    rintro (⟨items', hitems, hlength⟩ | ⟨s, hs, -⟩)
    · obtain rfl : items = items' := by simpa using hitems
      exact hlength
    · cases hs
  · next s =>
    rw [strictEq_ofNat]
    refine ⟨fun h => .inr ⟨s, rfl, h⟩, ?_⟩
    rintro (⟨items, hitems, -⟩ | ⟨s', hs, hsize⟩)
    · cases hitems
    · obtain rfl : s = s' := by simpa [ofString] using hs
      exact hsize
  · next hlist htext =>
    -- Nothing else has a length.
    constructor
    · intro h
      cases h
    · rintro (⟨items, hitems, -⟩ | ⟨s, hs, -⟩)
      · exact absurd hitems (hlist items)
      · exact absurd hs (htext s)

end Operand

namespace Step

/-! ### Results of one check -/

/-- A step that makes one check of the value at a location passes if the value is there and the check
holds. -/
theorem result_of_plan_eq_checkAt {c : Context} {s : Step} {l : Response.Location}
    {make : Response → Operand → Check} (h : s.plan c = checkAt c l make) :
    (s.execute c).result = .ok () ↔
      ∃ r, c.response = some r ∧ ∃ x, r.locate l = .ok x ∧ (make r x).holds = true := by
  cases hplan : s.plan c with
  | error e =>
    rw [execute_of_error hplan]
    constructor
    · intro hok
      cases hok
    · rintro ⟨r, hr, x, hx, -⟩
      have hok : s.plan c = .ok (.checks [make r x]) :=
        h.trans (checkAt_eq_ok.mpr ⟨r, hr, x, hx, rfl⟩)
      rw [hplan] at hok
      cases hok
  | ok p =>
    obtain ⟨r, hr, x, hx, rfl⟩ := checkAt_eq_ok.mp (h ▸ hplan)
    rw [execute_of_ok hplan, result_run_check]
    constructor
    · exact fun hholds => ⟨r, hr, x, hx, hholds⟩
    · rintro ⟨r', hr', x', hx', hholds⟩
      obtain rfl := Option.some.inj (hr.symm.trans hr')
      obtain rfl := Except.ok.inj (hx.symm.trans hx')
      exact hholds

theorem holds_equal_length {x : Operand} {n : Nat} {message : String} :
    (Check.equal x.length (.ofNat n) message).holds = true ↔ x.ListOf n ∨ x.TextOf n :=
  Operand.strictEq_length

theorem holds_notEqual_length {x : Operand} {n : Nat} {message : String} :
    (Check.notEqual x.length (.ofNat n) message).holds = true ↔ ¬ (x.ListOf n ∨ x.TextOf n) := by
  rw [← Operand.strictEq_length]
  show (!x.length.strictEq (.ofNat n)) = true ↔ _
  rw [Bool.not_eq_true', Bool.not_eq_true]

/-! ### The steps about lists -/

variable {c : Context} {n : Fin (2 ^ 64)} {path : String}

/-- A step that checks the whole body passes if there is a response and the check of its body holds. -/
theorem result_of_plan_eq_checkAt_body {s : Step} {make : Response → Operand → Check}
    (h : s.plan c = checkAt c .body make) :
    (s.execute c).result = .ok () ↔
      ∃ r, c.response = some r ∧ (make r r.wholeBody).holds = true := by
  simp only [result_of_plan_eq_checkAt h, Response.locate, Except.ok.injEq, exists_eq_left']

theorem result_shouldBeEmptyArrayResponse :
    (execute c .shouldBeEmptyArrayResponse).result = .ok () ↔
      ∃ r, c.response = some r ∧ (r.wholeBody.ListOf 0 ∨ r.wholeBody.TextOf 0) := by
  rw [result_of_plan_eq_checkAt_body (s := .shouldBeEmptyArrayResponse) rfl]
  simp only [holds_equal_length]

theorem result_shouldNotBeEmptyArrayResponse :
    (execute c .shouldNotBeEmptyArrayResponse).result = .ok () ↔
      ∃ r, c.response = some r ∧ ¬ (r.wholeBody.ListOf 0 ∨ r.wholeBody.TextOf 0) := by
  rw [result_of_plan_eq_checkAt_body (s := .shouldNotBeEmptyArrayResponse) rfl]
  simp only [holds_notEqual_length]

theorem result_shouldBeArraySize :
    (execute c (.shouldBeArraySize n)).result = .ok () ↔
      ∃ r, c.response = some r ∧ (r.wholeBody.ListOf n ∨ r.wholeBody.TextOf n) := by
  rw [result_of_plan_eq_checkAt_body (s := .shouldBeArraySize n) rfl]
  simp only [holds_equal_length]

theorem result_shouldBeAnArrayOfXItems :
    (execute c (.shouldBeAnArrayOfXItems path n)).result = .ok () ↔
      ∃ r, c.response = some r ∧
        ∃ x, r.findInBody path = .ok x ∧ (x.ListOf n ∨ x.TextOf n) := by
  rw [result_of_plan_eq_checkAt (s := .shouldBeAnArrayOfXItems path n) rfl]
  simp only [Response.locate, holds_equal_length]

/-- What passes on lists and texts of a length accepts only lists exactly where there is no text. -/
theorem accepts_only_lists_iff {p : Prop} {x : Operand} {n : Nat}
    (h : p ↔ x.ListOf n ∨ x.TextOf n) : (p → x.ListOf n) ↔ ¬ x.TextOf n := by
  constructor
  · exact fun honly htext => htext.not_listOf (honly (h.mpr (.inr htext)))
  · exact fun htext hp => (h.mp hp).resolve_right htext

/-- What passes on all but the empty list and the empty text accepts only lists exactly where there is
a list or the empty text. -/
theorem accepts_only_filled_lists_iff {p : Prop} {x : Operand}
    (h : p ↔ ¬ (x.ListOf 0 ∨ x.TextOf 0)) :
    (p → ∃ m, x.ListOf (m + 1)) ↔ (∃ m, x.ListOf m) ∨ x.TextOf 0 := by
  rw [h]
  constructor
  · intro honly
    by_cases hempty : x.ListOf 0 ∨ x.TextOf 0
    · exact hempty.imp_left fun hlist => ⟨0, hlist⟩
    · obtain ⟨m, hm⟩ := honly hempty
      exact .inl ⟨m + 1, hm⟩
  · rintro (⟨m, hm⟩ | htext) hnone
    · cases m with
      | zero => exact absurd (.inl hm) hnone
      | succ m => exact ⟨m, hm⟩
    · exact absurd (.inr htext) hnone

/-- **What the steps about lists accept**, in any context and for any size and path.  The three that ask
for a length pass exactly on a list or a text of that length, and the one that asks for another length
than zero exactly on all but the empty list and the empty text.  So of a response the first three accept
only lists exactly if there is no text of that length, and the last one exactly if the body is a list
or the empty text. -/
theorem passes_iff_length (c : Context) (n : Fin (2 ^ 64)) (path : String) :
    let passes (s : Step) : Prop := (s.execute c).result = .ok ()
    (passes .shouldBeEmptyArrayResponse ↔
      ∃ r, c.response = some r ∧ (r.wholeBody.ListOf 0 ∨ r.wholeBody.TextOf 0)) ∧
    (passes .shouldNotBeEmptyArrayResponse ↔
      ∃ r, c.response = some r ∧ ¬ (r.wholeBody.ListOf 0 ∨ r.wholeBody.TextOf 0)) ∧
    (passes (.shouldBeArraySize n) ↔
      ∃ r, c.response = some r ∧ (r.wholeBody.ListOf n ∨ r.wholeBody.TextOf n)) ∧
    (passes (.shouldBeAnArrayOfXItems path n) ↔
      ∃ r, c.response = some r ∧ ∃ x, r.findInBody path = .ok x ∧ (x.ListOf n ∨ x.TextOf n)) ∧
    ∀ r, c.response = some r →
      ((passes .shouldBeEmptyArrayResponse → r.wholeBody.ListOf 0) ↔ ¬ r.wholeBody.TextOf 0) ∧
      ((passes .shouldNotBeEmptyArrayResponse → ∃ m, r.wholeBody.ListOf (m + 1)) ↔
        (∃ m, r.wholeBody.ListOf m) ∨ r.wholeBody.TextOf 0) ∧
      ((passes (.shouldBeArraySize n) → r.wholeBody.ListOf n) ↔ ¬ r.wholeBody.TextOf n) ∧
      ∀ x, r.findInBody path = .ok x →
        ((passes (.shouldBeAnArrayOfXItems path n) → x.ListOf n) ↔ ¬ x.TextOf n) := by
  intro passes
  have hempty : passes .shouldBeEmptyArrayResponse ↔ _ := result_shouldBeEmptyArrayResponse
  have hfilled : passes .shouldNotBeEmptyArrayResponse ↔ _ := result_shouldNotBeEmptyArrayResponse
  have hsize : passes (.shouldBeArraySize n) ↔ _ := result_shouldBeArraySize
  have hitems : passes (.shouldBeAnArrayOfXItems path n) ↔ _ := result_shouldBeAnArrayOfXItems
  refine ⟨hempty, hfilled, hsize, hitems, fun r hr => ⟨?_, ?_, ?_, fun x hx => ?_⟩⟩
  · exact accepts_only_lists_iff (by rw [hempty, hr]; simp)
  · exact accepts_only_filled_lists_iff (by rw [hfilled, hr]; simp)
  · exact accepts_only_lists_iff (by rw [hsize, hr]; simp)
  · exact accepts_only_lists_iff (by rw [hitems, hr]; simp [hx])

/-- The empty text passes for a list without items, and a missing body for one with items. -/
theorem exists_passes_without_list :
    let empty : Response := { label := "[GET /]", status := 200, body := some (.string "") }
    let missing : Response := { label := "[GET /]", status := 204 }
    let c : Context := { response := some empty, now := ⟨0, 0, 0⟩ }
    let c' : Context := { response := some missing, now := ⟨0, 0, 0⟩ }
    (execute c .shouldBeEmptyArrayResponse).result = .ok () ∧
      (execute c (.shouldBeArraySize 0)).result = .ok () ∧
      (execute c (.shouldBeAnArrayOfXItems "$" 0)).result = .ok () ∧
      (execute c' .shouldNotBeEmptyArrayResponse).result = .ok () ∧
      (∀ m, ¬ empty.wholeBody.ListOf m) ∧ ∀ m, ¬ missing.wholeBody.ListOf m := by
  intro empty missing c c'
  have htext : empty.wholeBody.TextOf 0 := ⟨"", rfl, rfl⟩
  have hroot : empty.findInBody "$" = .ok empty.wholeBody := by
    have hsegments : Response.segments "$" = .ok [] := by decide +kernel
    simp only [Response.findInBody, empty, hsegments]
    rfl
  refine ⟨?_, ?_, ?_, rfl, fun m => htext.not_listOf, ?_⟩
  · exact result_shouldBeEmptyArrayResponse.mpr ⟨empty, rfl, .inr htext⟩
  · exact result_shouldBeArraySize.mpr ⟨empty, rfl, .inr htext⟩
  · exact result_shouldBeAnArrayOfXItems.mpr ⟨empty, rfl, _, hroot, .inr htext⟩
  · rintro m ⟨items, hitems, -⟩
    cases hitems

end Step

end ApiCheck
