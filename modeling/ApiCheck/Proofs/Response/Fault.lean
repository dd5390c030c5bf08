import ApiCheck.Proofs.Response.Route

/-!
# Which paths are refused

Reading a path takes nothing but the path, so every response with a body refuses the same paths, with
the same fault, whatever the body holds (`findInBody_eq_error_iff`).  Without a body a lookup is over
before the path is read: it finds `null` at every path, at those that cannot be read too.  Two
responses therefore agree on a path unless it cannot be read and only one of them has a body
(`fault?_eq_fault?_iff`).
-/

namespace ApiCheck.Response

variable {r : Response} {path : String}

/-! ### Faults -/

/-- The fault in a path, if it cannot be read. -/
def pathFault? (path : String) : Option PathError :=
  match segments path with
  | .ok _ => none
  | .error fault => some fault

/-- The fault that a lookup at a path reports. -/
def fault? (r : Response) (path : String) : Option PathError :=
  match r.findInBody path with
  | .ok _ => none
  | .error e => some e.reason

theorem pathFault?_eq_some_iff {fault : PathError} :
    pathFault? path = some fault ↔ segments path = .error fault := by
  unfold pathFault?
  split
  · next h => simp [h]
  · next h => simp [h]

theorem pathFault?_eq_none_iff : pathFault? path = none ↔ ∃ ss, segments path = .ok ss := by
  unfold pathFault?
  split
  · next h => simp [h]
  · next h => simp [h]

/-! ### Lookups -/

theorem findInBody_of_body_eq_none (h : r.body = none) : r.findInBody path = .ok .null := by
  rw [findInBody, h]

/-- A lookup fails exactly in a body, at a path that cannot be read; it reports the path as it is
given and the fault in it. -/
theorem findInBody_eq_error_iff {e : LookupError} :
    r.findInBody path = .error e ↔
      r.body ≠ none ∧ e.path = path ∧ pathFault? path = some e.reason := by
  rw [pathFault?_eq_some_iff]
  cases hbody : r.body with
  | none => simp [findInBody_of_body_eq_none hbody]
  | some v =>
    rw [findInBody, hbody]
    cases hpath : segments path with
    | ok ss => simp
    | error fault =>
      -- The two parts of the error are the path and the fault, and nothing of the body.
      obtain ⟨path', fault'⟩ := e
      simp [eq_comm]

theorem fault?_eq_some_iff {fault : PathError} :
    r.fault? path = some fault ↔ r.findInBody path = .error ⟨path, fault⟩ := by
  unfold fault?
  split
  · next h => simp [h]
  · next e h =>
    obtain ⟨-, hpath, -⟩ := findInBody_eq_error_iff.mp h
    obtain ⟨path', fault'⟩ := e
    obtain rfl : path' = path := hpath
    simp [h]

/-- A response with a body reports the fault that is in the path. -/
theorem fault?_of_body_ne_none (h : r.body ≠ none) : r.fault? path = pathFault? path := by
  refine Option.ext fun fault => ?_
  rw [fault?_eq_some_iff, findInBody_eq_error_iff]
  exact ⟨fun ⟨_, _, hfault⟩ => hfault, fun hfault => ⟨h, rfl, hfault⟩⟩

theorem fault?_of_body_eq_none (h : r.body = none) : r.fault? path = none := by
  rw [fault?, findInBody_of_body_eq_none h]

/-- **Which responses agree on a path.**  A response with a body refuses a path exactly if it cannot
be read, and reports the fault in it, whatever the body; a response without one finds `null` at every
path.  So two responses agree on whether they refuse a path, and for which reason, exactly if the path
can be read or if both or neither have a body. -/
theorem fault?_eq_fault?_iff (path : String) :
    (∀ r : Response, r.body ≠ none → ∀ e,
      (r.findInBody path = .error e ↔ e.path = path ∧ pathFault? path = some e.reason)) ∧
    (∀ r : Response, r.body = none → r.findInBody path = .ok .null) ∧
    (∀ r r' : Response, r.fault? path = r'.fault? path ↔
      (∃ ss, segments path = .ok ss) ∨ (r.body = none ↔ r'.body = none)) := by
  refine ⟨fun r hbody e => ?_, fun r hbody => findInBody_of_body_eq_none hbody, fun r r' => ?_⟩
  · rw [findInBody_eq_error_iff]
    exact and_iff_right hbody
  · rw [← pathFault?_eq_none_iff]
    by_cases hbody : r.body = none
    · by_cases hbody' : r'.body = none
      · simp [fault?_of_body_eq_none, hbody, hbody']
      · simp [fault?_of_body_eq_none hbody, fault?_of_body_ne_none hbody', hbody, hbody', eq_comm]
    · by_cases hbody' : r'.body = none
      · simp [fault?_of_body_ne_none hbody, fault?_of_body_eq_none hbody', hbody, hbody']
      · simp [fault?_of_body_ne_none hbody, fault?_of_body_ne_none hbody', hbody, hbody']

/-! ### A fault that is passed over -/

/-- A bracket that holds no index ends the reading. -/
theorem segmentsFrom_badBracket {inner rest : List Char} {fault : PathError} (h : ']' ∉ inner)
    (hfault : Segment.ofBracket inner = .error fault) :
    segmentsFrom ('[' :: (inner ++ ']' :: rest)) = .error fault := by
  rw [segmentsFrom, if_neg (by decide), if_pos rfl]
  split
  · next hnone =>
    rw [splitAtBracket_append h] at hnone
    cases hnone
  · next inner' after hsome =>
    rw [splitAtBracket_append h] at hsome
    obtain ⟨rfl, rfl⟩ := Prod.mk.inj (Option.some.inj hsome)
    simp only [hfault]

/-- The same misspelled path is refused in a body and found to be `null` without one. -/
theorem exists_fault_passed_over :
    let found : Response := { label := "[GET /users]", status := 200, body := some (.object []) }
    let missing : Response := { label := "[GET /users]", status := 204 }
    found.findInBody "$.roles[x]" = .error ⟨"$.roles[x]", .badIndex "x"⟩ ∧
      missing.findInBody "$.roles[x]" = .ok .null ∧
      found.fault? "$.roles[x]" ≠ missing.fault? "$.roles[x]" := by
  intro found missing
  have hbody : pathBody "$.roles[x]" = '.' :: ("roles".toList ++ '[' :: (['x'] ++ [']'])) := by
    decide +kernel
  have hkey : ∀ c ∈ "roles".toList, isKeyChar c = true := List.all_eq_true.mp (by decide +kernel)
  have hbracket : ∀ c ∈ ('[' :: (['x'] ++ [']'])).head?, isKeyChar c = false := by
    simp [isKeyChar]
  have hinner : Segment.ofBracket ['x'] = .error (.badIndex "x") := by decide +kernel
  have hpath : pathFault? "$.roles[x]" = some (.badIndex "x") := by
    rw [pathFault?_eq_some_iff, segments, hbody, segmentsFrom_dot,
      segmentsFrom_key (by decide) hkey hbracket, segmentsFrom_badBracket (by decide) hinner]
    rfl
  have hfound : found.findInBody "$.roles[x]" = .error ⟨"$.roles[x]", .badIndex "x"⟩ :=
    findInBody_eq_error_iff.mpr ⟨Option.some_ne_none _, rfl, hpath⟩
  have hmissing : missing.findInBody "$.roles[x]" = .ok .null := findInBody_of_body_eq_none rfl
  refine ⟨hfound, hmissing, ?_⟩
  rw [fault?_eq_some_iff.mpr hfound, fault?_of_body_eq_none rfl]
  exact Option.some_ne_none _

end ApiCheck.Response
