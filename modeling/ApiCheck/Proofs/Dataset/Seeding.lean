import ApiCheck.Proofs.Dataset

/-!
# Seeded keys

A key is `Normal` if it is its own normal key and not empty.  Writing puts a value under a normal key;
starting a scenario takes the keys of its fixtures and columns as they are given.  So, whatever was
done to a dataset, every key that it holds is normal or was supplied by the scenario that was started
last (`normal_or_seeded`).

A reference reads the value under the normal key of its name (`get_reference_eq`).  What is held under
a normal key is therefore read back by a reference to it, and what is held under another key is not,
unless the same value happens to be read in its place (`held_read_back`).
-/

namespace ApiCheck.Dataset

/-! ### Normal keys -/

/-- The key is one under which a value may be written. -/
def Normal (key : String) : Prop := key ≠ "" ∧ normalKey key = key

theorem normal_normalKey {key : String} (h : normalKey key ≠ "") : Normal (normalKey key) :=
  ⟨h, normalKey_normalKey key⟩

/-! ### Reading by reference -/

variable {d : Dataset} {key : String}

/-- A key without two closing braces has no reference to take off, only blank ends. -/
theorem normalKey_of_not_closes (h : ¬ Template.Closes key.toList) :
    normalKey key = Text.trimmed key :=
  normalKey_of_key?_eq_none (Template.key?_of_not_closes h)

theorem trimmed_eq_empty_iff : Text.trimmed key = "" ↔ Text.trim key.toList = [] := by
  rw [← String.toList_eq_nil_iff, Text.trimmed, String.toList_ofList]

/-- A reference to a blank name stands for itself. -/
theorem get_reference_of_blank (hclose : ¬ Template.Closes key.toList) (h : normalKey key = "") :
    d.get (Template.reference key) = .ok (.ofString (Template.reference key)) := by
  have hblank : Text.trim key.toList = [] := by
    rwa [normalKey_of_not_closes hclose, trimmed_eq_empty_iff] at h
  have hkey := Template.key?_reference_of_blank hblank hclose
  have hpieces : Template.pieces (Template.reference key).toList =
      [.literal (Template.reference key).toList] := by
    rw [Template.pieces_reference hclose, Template.Piece.ofInner, Template.trim_pad_blank,
      if_pos hblank, Template.toList_reference]
  simp only [get, Template.render, hkey, hpieces, Template.renderPieces, Except.map, Except.mapError,
    List.append_nil, String.ofList_toList]

/-- A reference reads the value under the normal key of its name. -/
theorem get_reference_of_not_blank (hclose : ¬ Template.Closes key.toList)
    (h : normalKey key ≠ "") :
    d.get (Template.reference key) =
      (d.value? (normalKey key)).elim (.error (.unknownKey (normalKey key))) .ok := by
  have hnormal := normalKey_of_not_closes hclose
  have hblank : Text.trim key.toList ≠ [] := by
    rwa [hnormal, Ne, trimmed_eq_empty_iff] at h
  have hkey := Template.key?_reference_of_not_blank hblank hclose
  simp only [get, Template.render, hkey, hnormal]
  cases d.value? (Text.trimmed key) with
  | none => rfl
  | some value => rfl

/-- What a reference to a key reads. -/
theorem get_reference_eq_ok_iff (hclose : ¬ Template.Closes key.toList) {value : Operand} :
    d.get (Template.reference key) = .ok value ↔
      if normalKey key = "" then value = .ofString (Template.reference key)
      else d.value? (normalKey key) = some value := by
  split
  · next h =>
    rw [get_reference_of_blank hclose h, Except.ok.injEq]
    exact eq_comm
  · next h =>
    rw [get_reference_of_not_blank hclose h]
    cases d.value? (normalKey key) with
    | none => simp
    | some value' => simp

/-! ### Operations -/

/-- What may be done to a dataset. -/
inductive Operation where
  | withFixture (f : Fixture)
  | set (key : String) (value : Operand)
  | seed (s : Scenario)

/-- The dataset after an operation; a write that is refused leaves it as it is. -/
def step (d : Dataset) : Operation → Dataset
  | .withFixture f => d.withFixture f
  | .set key value => d.afterSet key value
  | .seed s => d.seed s

/-- The dataset that operations make of an empty one. -/
def ofOperations (ops : List Operation) : Dataset :=
  ops.foldl step {}

theorem ofOperations_append_singleton (ops : List Operation) (op : Operation) :
    ofOperations (ops ++ [op]) = (ofOperations ops).step op := by
  rw [ofOperations, List.foldl_append]
  rfl

/-! ### Seeding -/

/-- The key is that of a fixture or of a column with which the scenario starts. -/
def Supplies (d : Dataset) (s : Scenario) (key : String) : Prop :=
  (∃ f ∈ d.fixtures, f.scenario = s.name ∧ f.key = key) ∨ key ∈ Fields.keys s.examples

/-- A scenario starts with the keys that its fixtures and columns supply, as they are given. -/
theorem isSome_value?_seed {s : Scenario} :
    ((d.seed s).value? key).isSome = true ↔ d.Supplies s key := by
  have hfixtures : ((d.fixturesOf s.name).get? key).isSome = true ↔
      ∃ f ∈ d.fixtures, f.scenario = s.name ∧ f.key = key := by
    rw [fixturesOf, Fields.isSome_get?_insertAll]
    simp [Fields.keys, and_assoc]
  show ((d.seedValues s).get? key).isSome = true ↔ _
  rw [seedValues, Fields.isSome_get?_insertAll, hfixtures, Supplies, or_comm, Fields.keys,
    Fields.keys, List.map_map]
  rfl

/-- The key was supplied when the last of the scenarios was started. -/
def Seeded (ops : List Operation) (key : String) : Prop :=
  ∃ earlier s later, ops = earlier ++ .seed s :: later ∧ (∀ s', .seed s' ∉ later) ∧
    (ofOperations earlier).Supplies s key

theorem Seeded.append {ops : List Operation} (h : Seeded ops key) {op : Operation}
    (hop : ∀ s, op ≠ .seed s) : Seeded (ops ++ [op]) key := by
  obtain ⟨earlier, s, later, rfl, hlater, hsupplies⟩ := h
  refine ⟨earlier, s, later ++ [op], by simp, fun s' hs' => ?_, hsupplies⟩
  rcases List.mem_append.mp hs' with hs' | hs'
  · exact hlater s' hs'
  · exact hop s' (List.mem_singleton.mp hs').symm

theorem held_of_afterSet {key' : String} {value : Operand}
    (h : ((d.afterSet key' value).value? key).isSome = true) :
    (d.value? key).isSome = true ∨ Normal key := by
  by_cases hempty : normalKey key' = ""
  · rw [afterSet_of_normalKey_eq_empty hempty] at h
    exact .inl h
  · rw [afterSet_of_normalKey_ne_empty hempty] at h
    by_cases hkey : key = normalKey key'
    · exact .inr (hkey ▸ normal_normalKey hempty)
    · exact .inl (by rwa [value?, Fields.get?_insert_of_ne hkey] at h)

/-- Every key that is held is normal, or was supplied by the scenario that was started last. -/
theorem normal_or_seeded {ops : List Operation}
    (h : ((ofOperations ops).value? key).isSome = true) : Normal key ∨ Seeded ops key := by
  induction ops using List.reverseRecOn with
  | nil => exact nomatch h
  | append_singleton ops op ih =>
    rw [ofOperations_append_singleton] at h
    cases op with
    | withFixture f => exact (ih h).imp_right fun hseeded => hseeded.append nofun
    | set key' value =>
      -- A write may leave behind what an earlier scenario supplied.
      rcases held_of_afterSet h with hbefore | hnormal
      · exact (ih hbefore).imp_right fun hseeded => hseeded.append nofun
      · exact .inl hnormal
    -- What was held before the scenario started is gone.
    | seed s => exact .inr ⟨ops, s, [], rfl, nofun, isSome_value?_seed.mp h⟩

/-- **Reading back what is held**, after any operations on an empty dataset.  A value under a normal
key without two closing braces is read back by a reference to the key.  A value under a key that is
not normal is read back only if the value under the normal key is the same, or if the key is blank and
the value is the text of the reference.  Every key that is held is normal unless it was supplied, as a
fixture or as a column, by the scenario that was started last; and a scenario starts with exactly the
keys that are supplied, normal or not. -/
theorem held_read_back (ops : List Operation) :
    (∀ key value, (ofOperations ops).value? key = some value → ¬ Template.Closes key.toList →
      (Normal key → (ofOperations ops).get (Template.reference key) = .ok value) ∧
      (¬ Normal key →
        ((ofOperations ops).get (Template.reference key) = .ok value ↔
          if normalKey key = "" then value = .ofString (Template.reference key)
          else (ofOperations ops).value? (normalKey key) = some value))) ∧
    (∀ key value, (ofOperations ops).value? key = some value → Normal key ∨ Seeded ops key) ∧
    (∀ s key, (∃ value, ((ofOperations ops).seed s).value? key = some value) ↔
      (ofOperations ops).Supplies s key) := by
  refine ⟨fun key value hvalue hclose => ⟨fun hnormal => ?_, fun _ => ?_⟩, fun key value hvalue => ?_,
    fun s key => ?_⟩
  · rw [get_reference_eq_ok_iff hclose, hnormal.2, if_neg hnormal.1, hvalue]
  · exact get_reference_eq_ok_iff hclose
  · exact normal_or_seeded (by rw [hvalue]; rfl)
  · rw [← isSome_value?_seed, Option.isSome_iff_exists]

/-- A fixture whose key stands between blanks, and the scenario that starts with it. -/
def paddedFixture : List Operation :=
  [.withFixture ⟨"create user", " name ", .ofString "john"⟩, .seed { name := "create user" }]

/-- A value may be held under a key that no reference reads back. -/
theorem exists_held_unread :
    (ofOperations paddedFixture).value? " name " = some (.ofString "john") ∧
      ¬ Template.Closes " name ".toList ∧
      (ofOperations paddedFixture).get (Template.reference " name ") =
        .error (.unknownKey "name") := by
  have hclose : ¬ Template.Closes " name ".toList := by decide +kernel
  have hname : normalKey " name " = "name" := by
    rw [normalKey_of_not_closes hclose]
    decide +kernel
  refine ⟨rfl, hclose, ?_⟩
  rw [get_reference_of_not_blank hclose (by rw [hname]; decide), hname]
  rfl

end ApiCheck.Dataset
