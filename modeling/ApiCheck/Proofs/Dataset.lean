import ApiCheck.Dataset
import ApiCheck.Proofs.Template

/-!
# Writing to a dataset

The normal key of a text is the name between its braces if the text is one reference, and the text
without its blank ends otherwise.  It is its own normal key (`normalKey_normalKey`), and it is empty
exactly for blank texts (`normalKey_eq_empty_iff`).  A value is written under the normal key and read
back by a reference to it, wherever there is one; writes under different normal keys may be made in
either order (`set_roundTrip`).
-/

namespace ApiCheck.Dataset

/-! ### Normal keys -/

theorem normalKey_of_encloses {s : String} {inner : List Char} (h : Template.Encloses s inner) :
    normalKey s = Template.nameOf inner := by
  rw [normalKey, Template.key?_eq_some_iff.mpr ⟨inner, h, rfl⟩, Option.getD_some]

theorem normalKey_of_key?_eq_none {s : String} (h : Template.key? s = none) :
    normalKey s = Text.trimmed s := by
  rw [normalKey, h, Option.getD_none]

/-- A text that is not one reference has the text itself as its normal key. -/
theorem normalKey_of_not_encloses {s : String} (h : ∀ inner, ¬ Template.Encloses s inner) :
    normalKey s = Text.trimmed s := by
  cases hkey : Template.key? s with
  | none => exact normalKey_of_key?_eq_none hkey
  | some name =>
    obtain ⟨inner, hinner, -⟩ := Template.key?_eq_some_iff.mp hkey
    exact absurd hinner (h inner)

/-- A normal key has no blank ends. -/
theorem trimmed_normalKey (s : String) : Text.Trimmed (normalKey s).toList := by
  unfold normalKey
  cases hkey : Template.key? s with
  | none =>
    rw [Option.getD_none, Text.trimmed, String.toList_ofList]
    exact Text.trimmed_trim _
  | some name => exact Template.trimmed_of_key? hkey

theorem key?_normalKey (s : String) : Template.key? (normalKey s) = none := by
  cases hkey : Template.key? s with
  | none => rw [normalKey_of_key?_eq_none hkey, Template.key?_trimmed, hkey]
  | some name =>
    -- The name would have to close once more.
    rw [normalKey, hkey, Option.getD_some]
    cases hname : Template.key? name with
    | none => rfl
    | some _ => exact absurd (Template.closes_of_key? hname) (Template.not_closes_of_key? hkey)

/-- A normal key is its own normal key. -/
theorem normalKey_normalKey (s : String) : normalKey (normalKey s) = normalKey s := by
  rw [normalKey_of_key?_eq_none (key?_normalKey s), Text.trimmed, (trimmed_normalKey s).trim_eq,
    String.ofList_toList]

/-- Only blank texts have an empty normal key. -/
theorem normalKey_eq_empty_iff {s : String} : normalKey s = "" ↔ Text.isBlankText s = true := by
  rw [Text.isBlankText_iff]
  cases hkey : Template.key? s with
  | none =>
    rw [normalKey_of_key?_eq_none hkey, ← String.toList_eq_nil_iff, Text.trimmed,
      String.toList_ofList]
  | some name =>
    obtain ⟨inner, hinner, -⟩ := Template.key?_eq_some_iff.mp hkey
    rw [normalKey, hkey, Option.getD_some, hinner.source]
    exact ⟨fun h => absurd h (Template.ne_empty_of_key? hkey),
      fun h => absurd h (List.cons_ne_nil _ _)⟩

/-- The normal keys to which a reference can be written. -/
theorem exists_key?_normalKey_iff {s : String} (h : normalKey s ≠ "") :
    (∃ r, Template.key? r = some (normalKey s)) ↔
      ¬ Template.Closes (normalKey s).toList := by
  rw [Template.exists_key?_iff]
  exact ⟨fun hkey => hkey.2.2, fun hclose => ⟨h, trimmed_normalKey s, hclose⟩⟩

/-! ### Writing -/

/-- The dataset after an attempt to write, which is the same as before where it is refused. -/
def afterSet (d : Dataset) (key : String) (value : Operand) : Dataset :=
  (d.set key value).toOption.getD d

variable {d : Dataset} {key : String}

theorem set_of_normalKey_eq_empty (h : normalKey key = "") (value : Operand) :
    d.set key value = .error .blankKey := by
  simp only [set, if_pos h]

theorem set_of_normalKey_ne_empty (h : normalKey key ≠ "") (value : Operand) :
    d.set key value = .ok { d with values := d.values.insert (normalKey key) value } := by
  simp only [set, if_neg h]

theorem afterSet_of_normalKey_eq_empty (h : normalKey key = "") (value : Operand) :
    d.afterSet key value = d := by
  rw [afterSet, set_of_normalKey_eq_empty h]
  rfl

theorem afterSet_of_normalKey_ne_empty (h : normalKey key ≠ "") (value : Operand) :
    d.afterSet key value = { d with values := d.values.insert (normalKey key) value } := by
  rw [afterSet, set_of_normalKey_ne_empty h]
  rfl

/-- A reference reads the value under its name, of whichever type. -/
theorem get_reference {name : String} {value : Operand} (hname : name ≠ "")
    (htrimmed : Text.Trimmed name.toList) (hclose : ¬ Template.Closes name.toList)
    (hvalue : d.value? name = some value) : d.get (Template.reference name) = .ok value := by
  have hkey := Template.key?_reference hname htrimmed hclose
  simp only [get, Template.render, hkey, hvalue, Option.elim_some]
  rfl

/-- Writes under different normal keys may be made in either order. -/
theorem afterSet_comm {key' : String} (hne : normalKey key ≠ normalKey key')
    (value value' : Operand) :
    (d.afterSet key value).afterSet key' value' = (d.afterSet key' value').afterSet key value := by
  by_cases h : normalKey key = ""
  · rw [afterSet_of_normalKey_eq_empty h, afterSet_of_normalKey_eq_empty h]
  · by_cases h' : normalKey key' = ""
    · rw [afterSet_of_normalKey_eq_empty h', afterSet_of_normalKey_eq_empty h']
    · simp only [afterSet_of_normalKey_ne_empty h, afterSet_of_normalKey_ne_empty h',
        Fields.insert_comm hne]

/-- Of two writes under one normal key the later counts. -/
theorem afterSet_afterSet {key' : String} (heq : normalKey key = normalKey key')
    (value value' : Operand) :
    (d.afterSet key value).afterSet key' value' = d.afterSet key' value' := by
  by_cases h : normalKey key = ""
  · rw [afterSet_of_normalKey_eq_empty h]
  · have h' : normalKey key' ≠ "" := heq ▸ h
    simp only [afterSet_of_normalKey_ne_empty h, afterSet_of_normalKey_ne_empty h', heq,
      Fields.insert_insert_self]

/-- **Writing and reading back**, for any dataset, key and value.  The normal key of a text that is one
reference is the name between its braces, that of every other text is the text without its blank
ends, and a normal key is its own normal key.  A blank key is refused and nothing is written.  Under
every other key the value is written to its normal key and to no other.  Unless two closing braces
stand in the normal key, a reference to it gives the value with its type, and exactly then some text
refers to it.  Writes under different normal keys commute, and of two under one the later counts. -/
theorem set_roundTrip (d : Dataset) (key : String) (value : Operand) :
    ((∀ inner, Template.Encloses key inner → normalKey key = Template.nameOf inner) ∧
      ((∀ inner, ¬ Template.Encloses key inner) → normalKey key = Text.trimmed key) ∧
      normalKey (normalKey key) = normalKey key) ∧
    (Text.isBlankText key = true →
      d.set key value = .error .blankKey ∧ d.afterSet key value = d) ∧
    (Text.isBlankText key = false →
      d.set key value = .ok (d.afterSet key value) ∧
      (d.afterSet key value).fixtures = d.fixtures ∧
      (∀ k, (d.afterSet key value).value? k =
        if k = normalKey key then some value else d.value? k) ∧
      (¬ Template.Closes (normalKey key).toList →
        (d.afterSet key value).get (Template.reference (normalKey key)) = .ok value) ∧
      ((∃ r, Template.key? r = some (normalKey key)) ↔
        ¬ Template.Closes (normalKey key).toList)) ∧
    (∀ key' value', normalKey key ≠ normalKey key' →
      (d.afterSet key value).afterSet key' value' =
        (d.afterSet key' value').afterSet key value) ∧
    (∀ key' value', normalKey key = normalKey key' →
      (d.afterSet key value).afterSet key' value' = d.afterSet key' value') := by
  refine ⟨⟨fun _ => normalKey_of_encloses, normalKey_of_not_encloses, normalKey_normalKey key⟩,
    fun hblank => ?_, fun hblank => ?_, fun _ value' hne => afterSet_comm hne value value',
    fun _ value' heq => afterSet_afterSet heq value value'⟩
  · have hempty : normalKey key = "" := normalKey_eq_empty_iff.mpr hblank
    exact ⟨set_of_normalKey_eq_empty hempty value, afterSet_of_normalKey_eq_empty hempty value⟩
  · have hempty : normalKey key ≠ "" := by
      rw [Ne, normalKey_eq_empty_iff, hblank]
      decide
    have hafter := afterSet_of_normalKey_ne_empty (d := d) hempty value
    have hvalue : ∀ k, (d.afterSet key value).value? k =
        if k = normalKey key then some value else d.value? k := by
      intro k
      rw [hafter]
      exact Fields.get?_insert _ k value d.values
    refine ⟨by rw [hafter, set_of_normalKey_ne_empty hempty], by rw [hafter], hvalue,
      fun hclose => ?_, exists_key?_normalKey_iff hempty⟩
    exact get_reference hempty (trimmed_normalKey key) hclose (by rw [hvalue, if_pos rfl])

end ApiCheck.Dataset
