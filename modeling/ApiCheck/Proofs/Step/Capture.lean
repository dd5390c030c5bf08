import ApiCheck.Proofs.Step.Execution
import ApiCheck.Proofs.Operand
import ApiCheck.Proofs.Dataset

/-!
# Captured values

A step that captures the node at a path keeps it under its normal key, through any steps that do not
capture under the same normal key (`value?_contextAfter`).  A later step that compares the node with a
reference to that key compares the captured value with itself (`compare_captured`).
-/

namespace ApiCheck

namespace Step

/-! ### Steps in between -/

/-- The context that steps leave which are executed one after the other, whatever their results. -/
def contextAfter (c : Context) (ss : List Step) : Context :=
  ss.foldl (fun c s => (s.execute c).context) c

/-- The step captures nothing under the normal key `key`. -/
def Spares (key : String) (s : Step) : Prop :=
  ∀ l key', s.capture? = some (l, key') → Dataset.normalKey key' ≠ key

variable {c : Context} {key : String}

theorem response_execute (c : Context) (s : Step) : (s.execute c).context.response = c.response := by
  rw [sameButValues_execute c s]

theorem value?_execute {s : Step} (h : s.Spares key) :
    (s.execute c).context.data.value? key = c.data.value? key := by
  cases hresult : (s.execute c).result with
  | error e => rw [context_execute_of_error hresult]
  | ok =>
    cases hcapture : s.capture? with
    | none => rw [context_execute hcapture]
    | some target =>
      obtain ⟨r, v, -, -, hc⟩ := context_execute_of_capture hcapture hresult
      rw [(capture_eq_ok hc).2 key, if_neg (Ne.symm (h _ _ hcapture))]

theorem response_contextAfter (c : Context) (ss : List Step) :
    (contextAfter c ss).response = c.response := by
  induction ss generalizing c with
  | nil => rfl
  | cons s ss ih => exact (ih _).trans (response_execute c s)

/-- Steps that capture nothing under a key leave its value as it is. -/
theorem value?_contextAfter {ss : List Step} (h : ∀ s ∈ ss, s.Spares key) :
    (contextAfter c ss).data.value? key = c.data.value? key := by
  induction ss generalizing c with
  | nil => rfl
  | cons s ss ih =>
    obtain ⟨hs, hss⟩ := List.forall_mem_cons.mp h
    exact (ih hss).trans (value?_execute hs)

/-! ### Comparing with a captured value -/

/-- The text is one of the words that stand for values. -/
def Keyword (s : String) : Prop := s = "true" ∨ s = "false" ∨ s = "null"

theorem keyword_eq_self {x : Operand} (h : ∀ s, x = .ofString s → ¬ Keyword s) :
    keyword x = x := by
  unfold keyword
  split
  · exact absurd (.inl rfl) (h _ rfl)
  · exact absurd (.inr (.inl rfl)) (h _ rfl)
  · exact absurd (.inr (.inr rfl)) (h _ rfl)
  · rfl

/-- An operand equals the value that it stands for unless it is one of the three words. -/
theorem strictEq_keyword {x : Operand} :
    x.strictEq (keyword x) = true ↔ ¬ x.Composite ∧ ∀ s, x = .ofString s → ¬ Keyword s := by
  by_cases h : ∀ s, x = .ofString s → ¬ Keyword s
  · rw [keyword_eq_self h, Operand.strictEq_self]
    exact ⟨fun hx => ⟨hx, h⟩, And.left⟩
  · refine ⟨fun hx => ?_, fun hx => absurd hx.2 h⟩
    push Not at h
    obtain ⟨s, rfl, rfl | rfl | rfl⟩ := h <;> exact nomatch hx

/-- The result of a check of the node at a path against the value of a reference. -/
theorem result_execute_nodeCheck {s : Step} {r : Response} {path : String}
    {actual expected : Operand}
    (hplan : s.plan c = .ok (.checks [nodeCheck r path actual expected])) :
    (s.execute c).result = .ok () ↔ actual.strictEq expected = true := by
  rw [execute_of_ok hplan, result_run_check]
  rfl

/-- A value is captured under every key that is not blank. -/
theorem exists_capture (c : Context) (value : Operand) (h : Dataset.normalKey key ≠ "") :
    ∃ c', c.capture key value = .ok c' ∧
      c'.data.value? (Dataset.normalKey key) = some value := by
  have hset : ∃ c', c.capture key value = .ok c' := by
    rw [Context.capture, Dataset.set_of_normalKey_ne_empty h]
    exact ⟨_, rfl⟩
  obtain ⟨c', hc'⟩ := hset
  exact ⟨c', hc', by rw [(capture_eq_ok hc').2, if_pos rfl]⟩

/-- A text that is no reference is taken as it is. -/
theorem resolve_of_key?_eq_none {s : String} (h : Template.key? s = none) :
    c.resolve s = .ok (.ofString s) := by
  simp only [Context.resolve, Dataset.resolve, Template.isPlaceholder, h]
  rfl

theorem resolve_reference {name : String} {value : Operand} (hname : name ≠ "")
    (htrimmed : Text.Trimmed name.toList) (hclose : ¬ Template.Closes name.toList)
    (hvalue : c.data.value? name = some value) :
    c.resolve (Template.reference name) = .ok value := by
  have hkey := Template.key?_reference hname htrimmed hclose
  have hget := Dataset.get_reference hname htrimmed hclose hvalue
  simp only [Context.resolve, Dataset.resolve, Template.isPlaceholder, hkey, Option.isSome_some,
    if_true, hget]
  rfl

/-- **Capture, then compare**: the node at a path is captured under a key, and after any steps that
capture nothing under its normal key it is compared with a reference to that key.  As a string it
passes exactly if it is neither an array nor an object nor one of the words `true`, `false` and `null`;
as a number it passes exactly if it is neither an array nor an object nor a string that spells a
number. -/
theorem compare_captured (c : Context) (r : Response) (path key : String) (value : Operand)
    (between : List Step) (hresponse : c.response = some r)
    (hpath : r.findInBody path = .ok value) (hkey : Dataset.normalKey key ≠ "")
    (hclose : ¬ Template.Closes (Dataset.normalKey key).toList)
    (hbetween : ∀ s ∈ between, s.Spares (Dataset.normalKey key)) :
    let captured := (Step.addBodyPropertyToDataset path key).execute c
    let later := contextAfter captured.context between
    let reference := Template.reference (Dataset.normalKey key)
    captured.result = .ok () ∧
    (((Step.shouldBeString path reference).execute later).result = .ok () ↔
      ¬ value.Composite ∧ ∀ s, value = .ofString s → ¬ Keyword s) ∧
    (((Step.shouldBeNumber path reference).execute later).result = .ok () ↔
      ¬ value.Composite ∧ ∀ s, value = .ofString s → ¬ Operand.Numeric s) := by
  intro captured later reference
  obtain ⟨c', hcapture, hcaptured⟩ := exists_capture c value hkey
  have hplan : (Step.addBodyPropertyToDataset path key).plan c = .ok (.capture key value) :=
    captureAt_eq_ok.mpr ⟨r, hresponse, value, hpath, rfl⟩
  have heffect : captured = ⟨c', [], .ok ()⟩ := by
    simp only [captured, execute_of_ok hplan, Plan.run, hcapture]
  have hlater : later.response = some r := by
    rw [response_contextAfter, response_execute, hresponse]
  have hvalue : later.data.value? (Dataset.normalKey key) = some value := by
    rw [value?_contextAfter hbetween, heffect, hcaptured]
  have hresolve : later.resolve reference = .ok value :=
    resolve_reference hkey (Dataset.trimmed_normalKey key) hclose hvalue
  refine ⟨by rw [heffect], ?_, ?_⟩
  · have hplan : (Step.shouldBeString path reference).plan later =
        .ok (.checks [nodeCheck r path value (keyword value)]) :=
      bind_eq_ok.mpr ⟨value, hresolve, checkAt_eq_ok.mpr ⟨r, hlater, value, hpath, rfl⟩⟩
    rw [result_execute_nodeCheck hplan, strictEq_keyword]
  · have hplan : (Step.shouldBeNumber path reference).plan later =
        .ok (.checks [nodeCheck r path value value.coerceNumber]) :=
      bind_eq_ok.mpr ⟨r, needResponse_eq_ok.mpr hlater,
        bind_eq_ok.mpr ⟨value, hresolve, bind_eq_ok.mpr ⟨value, mapError_eq_ok.mpr hpath, rfl⟩⟩⟩
    rw [result_execute_nodeCheck hplan, Operand.strictEq_coerceNumber]

/-- A response with digits in a string. -/
def digitsInString : Response where
  label := "[GET /]"
  status := 200
  headers := [("etag", "7")]
  body := some (.object [("id", .string "007")])

/-- A captured string of digits equals itself as a string but not as a number, also after a step that
fails and one that captures under another key. -/
theorem compare_captured_digits :
    let c : Context := { response := some digitsInString, now := ⟨0, 0, 0⟩ }
    let between : List Step := [.shouldBeTrue "id", .addHeaderPropertyToDataset "etag" "id"]
    let later := contextAfter ((Step.addBodyPropertyToDataset "id" " user id ").execute c).context
      between
    digitsInString.findInBody "id" = .ok (.ofString "007") ∧
      Dataset.normalKey " user id " = "user id" ∧ ¬ Template.Closes "user id".toList ∧
      (∀ s ∈ between, s.Spares "user id") ∧
      ((Step.shouldBeString "id" (Template.reference "user id")).execute later).result = .ok () ∧
      ((Step.shouldBeNumber "id" (Template.reference "user id")).execute later).result ≠ .ok () := by
  intro c between later
  have hsegments : Response.segments "id" = .ok [.key "id"] := by decide +kernel
  have hpath : digitsInString.findInBody "id" = .ok (.ofString "007") := by
    simp only [Response.findInBody, digitsInString, hsegments]
    rfl
  have hkey : Dataset.normalKey " user id " = "user id" := by decide +kernel
  have hclose : ¬ Template.Closes "user id".toList := by decide +kernel
  have hother : Dataset.normalKey "id" ≠ "user id" := by decide +kernel
  have hbetween : ∀ s ∈ between, s.Spares "user id" := by
    simp only [between, List.forall_mem_cons]
    refine ⟨nofun, fun l key' h => ?_, nofun⟩
    obtain ⟨rfl, rfl⟩ := Prod.mk.inj (Option.some.inj h)
    exact hother
  obtain ⟨-, hstring, hnumber⟩ := compare_captured c digitsInString "id" " user id "
    (.ofString "007") between rfl hpath (by rw [hkey]; decide) (by rw [hkey]; exact hclose)
    (by rw [hkey]; exact hbetween)
  rw [hkey] at hstring hnumber
  refine ⟨hpath, hkey, hclose, hbetween, hstring.mpr ⟨nofun, ?_⟩, fun hok => ?_⟩
  · rintro s hs (rfl | rfl | rfl) <;> exact absurd hs (by simp [Operand.ofString])
  · exact (hnumber.mp hok).2 "007" rfl (.inl ⟨7, by decide +kernel⟩)

end Step

end ApiCheck
