import ApiCheck.Proofs.Step.Capture

/-!
# Patterns between slashes

A pattern may be written bare or between two slashes (`Pattern.enclose`).  Putting slashes around it
leaves the expression that it denotes (`Pattern.compile?_enclose`), unless slashes enclose it already:
of two pairs only the outer one is dropped.

So a step that matches a node treats both forms alike (`Step.shouldMatch_enclose`).  It asks for the
response first, then for the expression and only then for the node, and shows the pattern as it was
written.
-/

namespace ApiCheck

namespace Pattern

/-! ### Slashes -/

/-- The pattern between two slashes. -/
def enclose (pattern : String) : String := "/" ++ pattern ++ "/"

/-- The pattern stands between two slashes. -/
def Enclosed (pattern : String) : Prop :=
  ∃ inner, pattern.toList = '/' :: (inner ++ ['/'])

variable {pattern : String}

/-- Both of the slashes that enclose a pattern are dropped. -/
theorem body_of_toList_eq {inner : List Char} (h : pattern.toList = '/' :: (inner ++ ['/'])) :
    body pattern = inner := by
  simp only [body, h, List.getLast?_concat, if_pos, List.dropLast_concat]

theorem body_enclose (pattern : String) : body (enclose pattern) = pattern.toList := by
  refine body_of_toList_eq ?_
  rw [enclose, String.toList_append, String.toList_append]
  rfl

/-- Of other slashes none is dropped, also where there is one at either end of nothing. -/
theorem body_of_not_enclosed (h : ¬ Enclosed pattern) : body pattern = pattern.toList := by
  unfold body
  split
  · next rest hrest =>
    split
    · next hlast =>
      obtain ⟨inner, hinner⟩ := List.getLast?_eq_some_iff.mp hlast
      exact absurd ⟨inner, by rw [hrest, hinner]⟩ h
    · rw [hrest]
  · rfl

/-- Slashes around a pattern that has none leave the expression that it denotes. -/
theorem compile?_enclose (h : ¬ Enclosed pattern) :
    compile? (enclose pattern) = compile? pattern := by
  rw [compile?, compile?, body_enclose, body_of_not_enclosed h]

end Pattern

namespace Step

/-! ### The step -/

/-- The check of a node against a pattern, which is shown as it was written. -/
def matchCheck (r : Response) (path pattern : String) (x : Operand) (found : Bool) : Check :=
  .isTrue found (about r
    s!"The response body property {path} should match the regexp {pattern} but received : {x.text}")

section

variable {c : Context} {r : Response} {path pattern : String}

theorem execute_shouldMatch_of_noResponse (h : c.response = none) :
    (Step.shouldMatch path pattern).execute c = ⟨c, [], .error .noResponse⟩ := by
  refine execute_of_error ?_
  exact bind_eq_error.mpr (.inl (needResponse_eq_error.mpr ⟨h, rfl⟩))

/-- The expression is asked for before the node. -/
theorem execute_shouldMatch_of_invalid (hresponse : c.response = some r)
    (hpattern : Pattern.compile? pattern = none) :
    (Step.shouldMatch path pattern).execute c = ⟨c, [], .error (.invalidPattern pattern)⟩ := by
  refine execute_of_error (bind_eq_error.mpr (.inr ⟨r, needResponse_eq_ok.mpr hresponse, ?_⟩))
  simp only [hpattern]

variable {regex : Pattern.Regex Pattern.Atom}

theorem execute_shouldMatch_of_unlocated (hresponse : c.response = some r)
    (hpattern : Pattern.compile? pattern = some regex) {cause : Response.LookupError}
    (hpath : r.findInBody path = .error cause) :
    (Step.shouldMatch path pattern).execute c = ⟨c, [], .error (.lookup cause)⟩ := by
  refine execute_of_error (bind_eq_error.mpr (.inr ⟨r, needResponse_eq_ok.mpr hresponse, ?_⟩))
  simp only [hpattern]
  exact checkAt_eq_error.mpr (.inr ⟨r, hresponse, cause, hpath, rfl⟩)

theorem execute_shouldMatch_of_located (hresponse : c.response = some r)
    (hpattern : Pattern.compile? pattern = some regex) {x : Operand}
    (hpath : r.findInBody path = .ok x) :
    let found := Pattern.isMatch regex x.text
    let check := matchCheck r path pattern x found
    (Step.shouldMatch path pattern).execute c =
      ⟨c, [.checked check], if found then .ok () else .error (.assertion check)⟩ := by
  intro found check
  have hplan : plan c (.shouldMatch path pattern) = .ok (.checks [check]) := by
    refine bind_eq_ok.mpr ⟨r, needResponse_eq_ok.mpr hresponse, ?_⟩
    simp only [hpattern]
    exact checkAt_eq_ok.mpr ⟨r, hresponse, x, hpath, rfl⟩
  have hholds : check.holds = found := by
    show (found == true) = found
    rw [beq_true]
  rw [execute_of_ok hplan, run_check, hholds]

end

/-- **Patterns between slashes.**  A pattern that slashes do not enclose denotes the same expression
between two slashes as it does bare, and a step treats both forms alike in every context.  Without a
response both are refused, whatever the pattern.  With one, both are refused if the pattern denotes no
expression, each naming the pattern as it was written; then both for the same reason if no node is
found.  Otherwise both make one check, that some part of the text of the node matches.  Its verdict is
the same, and only the pattern in its message differs. -/
theorem shouldMatch_enclose (c : Context) (path pattern : String)
    (h : ¬ Pattern.Enclosed pattern) :
    let slashed := Pattern.enclose pattern
    let execute (pattern : String) : Effect Unit := (Step.shouldMatch path pattern).execute c
    (Pattern.body pattern = pattern.toList ∧ Pattern.body slashed = pattern.toList) ∧
    (c.response = none →
      execute pattern = ⟨c, [], .error .noResponse⟩ ∧
      execute slashed = ⟨c, [], .error .noResponse⟩) ∧
    (∀ r, c.response = some r →
      (Pattern.compile? pattern = none →
        execute pattern = ⟨c, [], .error (.invalidPattern pattern)⟩ ∧
        execute slashed = ⟨c, [], .error (.invalidPattern slashed)⟩) ∧
      (∀ regex, Pattern.compile? pattern = some regex →
        (∀ cause, r.findInBody path = .error cause →
          execute pattern = ⟨c, [], .error (.lookup cause)⟩ ∧
          execute slashed = ⟨c, [], .error (.lookup cause)⟩) ∧
        (∀ x, r.findInBody path = .ok x →
          let found := Pattern.isMatch regex x.text
          let judged (check : Check) : Effect Unit :=
            ⟨c, [.checked check], if found then .ok () else .error (.assertion check)⟩
          execute pattern = judged (matchCheck r path pattern x found) ∧
          execute slashed = judged (matchCheck r path slashed x found)))) := by
  intro slashed execute
  have hslashed : Pattern.compile? slashed = Pattern.compile? pattern := Pattern.compile?_enclose h
  refine ⟨⟨Pattern.body_of_not_enclosed h, Pattern.body_enclose pattern⟩, fun hresponse => ?_,
    fun r hresponse => ⟨fun hinvalid => ?_, fun regex hregex => ⟨fun cause hpath => ?_,
      fun x hpath => ?_⟩⟩⟩
  · exact ⟨execute_shouldMatch_of_noResponse hresponse,
      execute_shouldMatch_of_noResponse hresponse⟩
  · exact ⟨execute_shouldMatch_of_invalid hresponse hinvalid,
      execute_shouldMatch_of_invalid hresponse (hslashed.trans hinvalid)⟩
  · exact ⟨execute_shouldMatch_of_unlocated hresponse hregex hpath,
      execute_shouldMatch_of_unlocated hresponse (hslashed.trans hregex) hpath⟩
  · exact ⟨execute_shouldMatch_of_located hresponse hregex hpath,
      execute_shouldMatch_of_located hresponse (hslashed.trans hregex) hpath⟩

/-- A response with a text that holds a slash. -/
def withSlash : Response where
  label := "[GET /]"
  status := 200
  headers := []
  body := some (.object [("unit", .string "km/h")])

/-- A single slash encloses nothing, so that it stands for itself both bare and as three slashes. -/
theorem shouldMatch_enclose_slash :
    let c : Context := { response := some withSlash, now := ⟨0, 0, 0⟩ }
    ¬ Pattern.Enclosed "/" ∧ Pattern.enclose "/" = "///" ∧
      ((Step.shouldMatch "unit" "/").execute c).result = .ok () ∧
      ((Step.shouldMatch "unit" "///").execute c).result = .ok () := by
  intro c
  have hsegments : Response.segments "unit" = .ok [.key "unit"] := by decide +kernel
  have hpath : withSlash.findInBody "unit" = .ok (.ofString "km/h") := by
    simp only [Response.findInBody, withSlash, hsegments]
    rfl
  have hslash : ¬ Pattern.Enclosed "/" := by
    rintro ⟨inner, hinner⟩
    cases inner <;> cases hinner
  have hany : (Pattern.compile? "/").any (Pattern.isMatch · "km/h") = true := by decide +kernel
  obtain ⟨regex, hregex, hfound⟩ := Option.any_eq_true .. |>.mp hany
  obtain ⟨-, -, hanswers⟩ := shouldMatch_enclose c "unit" "/" hslash
  obtain ⟨hbare, hslashed⟩ := (hanswers withSlash rfl).2 regex hregex |>.2 _ hpath
  have htext : (Operand.ofString "km/h").text = "km/h" := rfl
  rw [htext, hfound] at hbare hslashed
  exact ⟨hslash, rfl, congrArg Effect.result hbare, congrArg Effect.result hslashed⟩

end Step

end ApiCheck
