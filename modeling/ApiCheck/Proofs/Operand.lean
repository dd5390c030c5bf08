import ApiCheck.Operand

/-!
# Comparing an operand with itself

Every operand that is neither an array nor an object strictly equals itself (`strictEq_self`).  One
that is compared with the number that it spells equals it only if it spells none
(`strictEq_coerceNumber`), since no string equals a number.
-/

namespace ApiCheck

namespace Operand

/-- The operand is an array or an object. -/
inductive Composite : Operand → Prop
  | array (items : List Json) : Composite (.json (.array items))
  | object (members : Fields Json) : Composite (.json (.object members))

/-- The text, without its blank ends, is an integer of 64 bits or a finite double. -/
def Numeric (s : String) : Prop :=
  (∃ n, readSigned64 (Text.trim s.toList) = some n) ∨
    ∃ x, readDouble (Text.trim s.toList) = some (.finite x)

theorem strictEq_number_self (n : Number) : n.strictEq n = true := by
  cases n with
  | integer i => exact beq_self_eq_true i
  | real x => exact beq_self_eq_true x.place

/-- What is not made of other values equals itself. -/
theorem strictEq_self {x : Operand} : strictEq x x = true ↔ ¬ Composite x := by
  cases x with
  | undefined => exact ⟨fun _ => nofun, fun _ => rfl⟩
  | json v =>
    cases v with
    | null => exact ⟨fun _ => nofun, fun _ => rfl⟩
    | bool b => exact ⟨fun _ => nofun, fun _ => beq_self_eq_true b⟩
    | number n => exact ⟨fun _ => nofun, fun _ => strictEq_number_self n⟩
    | string s => exact ⟨fun _ => nofun, fun _ => beq_self_eq_true s⟩
    | array items => exact ⟨nofun, fun h => (h (.array items)).elim⟩
    | object members => exact ⟨nofun, fun h => (h (.object members)).elim⟩

/-- Only `undefined` equals `undefined`. -/
theorem strictEq_undefined {x : Operand} : strictEq x .undefined = true ↔ x = .undefined := by
  cases x with
  | undefined => exact iff_of_true rfl rfl
  | json v =>
    refine iff_of_false ?_ ?_
    · cases v <;> exact Bool.false_ne_true
    · intro h
      cases h

theorem ofString_inj {s t : String} : ofString s = ofString t ↔ s = t := by
  rw [ofString, ofString, Operand.json.injEq, Json.string.injEq]

/-- Only the same text equals a text. -/
theorem strictEq_ofString_left {s : String} {x : Operand} :
    strictEq (.ofString s) x = true ↔ x = .ofString s := by
  cases x with
  | undefined => exact iff_of_false Bool.false_ne_true fun h => by cases h
  | json v =>
    cases v with
    | string t =>
      show (s == t) = true ↔ Operand.ofString t = Operand.ofString s
      rw [beq_iff_eq, ofString_inj, eq_comm]
    | null | bool | number | array | object =>
      exact iff_of_false Bool.false_ne_true fun h => by cases h

theorem numberOfText?_eq_none {s : String} : numberOfText? s = none ↔ ¬ Numeric s := by
  unfold numberOfText? Numeric
  dsimp only
  split
  · next n hn => simp [hn]
  · next hn =>
    split
    · next x hx => simp [hx]
    · next hx => simpa [hn] using fun x => hx x

theorem coerceNumber_ofString (s : String) :
    coerceNumber (.ofString s) = (numberOfText? s).elim (.ofString s) fun n => .json (.number n) := by
  simp only [coerceNumber, ofString]
  cases numberOfText? s <;> rfl

theorem coerceNumber_of_ne_ofString {x : Operand} (h : ∀ s, x ≠ .ofString s) :
    coerceNumber x = x := by
  unfold coerceNumber
  split
  · next s => exact absurd rfl (h s)
  · rfl

/-- An operand equals the number that it spells only if it spells none. -/
theorem strictEq_coerceNumber {x : Operand} :
    strictEq x x.coerceNumber = true ↔ ¬ Composite x ∧ ∀ s, x = .ofString s → ¬ Numeric s := by
  by_cases hx : ∃ s, x = .ofString s
  · obtain ⟨s, rfl⟩ := hx
    rw [coerceNumber_ofString]
    cases hnumber : numberOfText? s with
    | none =>
      have hnone := numberOfText?_eq_none.mp hnumber
      refine ⟨fun _ => ⟨nofun, ?_⟩, fun _ => strictEq_self.mpr nofun⟩
      rintro t ht
      obtain rfl : s = t := by simpa [ofString] using ht
      exact hnone
    | some n =>
      refine ⟨nofun, fun h => ?_⟩
      have hnone := numberOfText?_eq_none.mpr (h.2 s rfl)
      rw [hnumber] at hnone
      exact nomatch hnone
  · have hne : ∀ s, x ≠ .ofString s := fun s hs => hx ⟨s, hs⟩
    rw [coerceNumber_of_ne_ofString hne, strictEq_self]
    exact ⟨fun h => ⟨h, fun s hs => absurd hs (hne s)⟩, And.left⟩

end Operand

end ApiCheck
