import ApiCheck.Proofs.Number.Integer
import ApiCheck.Proofs.Number.Shortest
import ApiCheck.Proofs.Operand.Equality

/-!
# Texts that spell numbers

The text of a number spells a number that equals it, though it need not be the same one
(`Operand.coerceNumber_text`).  The text of an integer spells that integer if it has sixty-four bits
and a sign (`Operand.numberOfText?_of_lt`), and else the double nearest to it
(`Operand.numberOfText?_of_le`).  The text of a double that has no point is read as an integer where it
fits, and this integer is rounded to the double again (`Operand.numberOfText?_chars`).

Behind it stands that a text which is read as an integer is read as a double too, as the one to which
the integer is rounded (`exists_readDouble_of_readSigned64`); only the sign of zero may differ.
-/

namespace ApiCheck

/-! ### Integers that are read as doubles -/

/-- A text that is read as an integer is a whole decimal with a sign. -/
theorem exists_whole_of_readSigned64 {cs : List Char} {i : ℤ} (h : readSigned64 cs = some i) :
    ∃ (negative : Bool) (n : ℕ), readDouble cs = some (.ofDecimal negative n 0) ∧
      i = if negative then -(n : ℤ) else n := by
  have hwhole : ∀ {limit n : ℕ} {ds : List Char}, (readDigits limit ds).toOption = some n →
      Positional ds n 0 := by
    intro limit n ds hread
    cases hdigits : readDigits limit ds with
    | error cause =>
      rw [hdigits] at hread
      cases hread
    | ok m =>
      rw [hdigits] at hread
      obtain rfl := Option.some.inj hread
      obtain ⟨hne, hall, rfl, -⟩ := readDigits_eq_ok_iff.mp hdigits
      exact .whole hne hall
  unfold readSigned64 at h
  split at h
  · next ds =>
    cases hn : (readDigits (2 ^ 63) ds).toOption with
    | none =>
      rw [hn] at h
      cases h
    | some n =>
      rw [hn] at h
      obtain rfl := Option.some.inj h
      exact ⟨true, n, (Signed.minus (hwhole hn)).readDouble_eq, rfl⟩
  · next ds =>
    obtain ⟨n, hn, rfl⟩ := Option.map_eq_some_iff.mp h
    have hplain := hwhole hn
    -- A plus sign is dropped, and the digits have no other sign in front.
    have hplus : readDouble ('+' :: ds) = readDouble ds := hplain.readDouble_eq.symm
    exact ⟨false, n, hplus.trans (Signed.plain hplain).readDouble_eq, rfl⟩
  · obtain ⟨n, hn, rfl⟩ := Option.map_eq_some_iff.mp h
    exact ⟨false, n, (Signed.plain (hwhole hn)).readDouble_eq, rfl⟩

/-- A whole decimal is rounded as the integer that it denotes, up to the sign of zero. -/
theorem Double.numEq_ofDecimal_whole (negative : Bool) (n : ℕ) :
    numEq (ofInt (if negative then -(n : ℤ) else n)) (ofDecimal negative n 0) = true := by
  rw [ofDecimal_whole]
  rcases Nat.eq_zero_or_pos n with rfl | hpos
  · cases negative <;> decide
  · have hsame : ofInt (if negative then -(n : ℤ) else n) = ofRatio negative n 1 := by
      cases negative with
      | false =>
        have hsign : decide ((n : ℤ) < 0) = false := decide_eq_false (by omega)
        simp only [ofInt, Bool.false_eq_true, if_false, hsign, Int.natAbs_natCast]
      | true =>
        have hsign : decide (-(n : ℤ) < 0) = true := decide_eq_true (by omega)
        simp only [ofInt, if_true, hsign, Int.natAbs_neg, Int.natAbs_natCast]
    rw [← hsame]
    exact numEq_ofInt_self _

/-- A text that is read as an integer is read as the double to which the integer is rounded. -/
theorem exists_readDouble_of_readSigned64 {cs : List Char} {i : ℤ}
    (h : readSigned64 cs = some i) :
    ∃ x, readDouble cs = some x ∧ Double.numEq (.ofInt i) x = true := by
  obtain ⟨negative, n, hread, rfl⟩ := exists_whole_of_readSigned64 h
  exact ⟨_, hread, Double.numEq_ofDecimal_whole negative n⟩

namespace Operand

/-! ### Texts of integers -/

section

variable {m : ℤ}

/-- An integer of sixty-four bits with a sign is spelled by its text. -/
theorem numberOfText?_of_lt (hlow : -2 ^ 63 ≤ m) (h : m < 2 ^ 63) :
    numberOfText? (toString m) = some (.integer m) := by
  have hsigned : -2 ^ 63 ≤ m ∧ m < 2 ^ 63 := ⟨hlow, h⟩
  simp only [numberOfText?, (trimmed_toString m).trim_eq, readSigned64_toString, if_pos hsigned]

/-- The text of a greater integer spells the double nearest to it. -/
theorem numberOfText?_of_le (hm : Number.InRange m) (h : 2 ^ 63 ≤ m) :
    ∃ x, Double.ofInt m = .finite x ∧ numberOfText? (toString m) = some (.real x) := by
  obtain ⟨x, hx⟩ := Double.exists_ofInt (Number.natAbs_le_of_inRange hm)
  refine ⟨x, hx, ?_⟩
  have hsigned : ¬ (-2 ^ 63 ≤ m ∧ m < 2 ^ 63) := by omega
  simp only [numberOfText?, (trimmed_toString m).trim_eq, readSigned64_toString, if_neg hsigned,
    readDouble_toString, hx]

end

/-! ### Texts of doubles -/

/-- The text of a double spells the double, or an integer that is rounded to it. -/
theorem numberOfText?_chars (x : FiniteDouble) :
    numberOfText? x.text = some (.real x) ∨
      ∃ i, numberOfText? x.text = some (.integer i) ∧
        Double.numEq (.ofInt i) (.finite x) = true := by
  obtain ⟨digits, exponent, hsigned, -⟩ := x.exists_signed
  have htrim : Text.trim x.text.toList = x.chars := by
    rw [FiniteDouble.text, String.toList_ofList, hsigned.trimmed.trim_eq]
  cases hinteger : readSigned64 x.chars with
  | none =>
    left
    simp only [numberOfText?, htrim, hinteger, x.readDouble_chars]
  | some i =>
    right
    obtain ⟨y, hy, hequal⟩ := exists_readDouble_of_readSigned64 hinteger
    obtain rfl : y = .finite x := Option.some.inj (hy.symm.trans x.readDouble_chars)
    exact ⟨i, by simp only [numberOfText?, htrim, hinteger], hequal⟩

/-! ### Texts of numbers -/

/-- The text of a number spells a number that equals it. -/
theorem exists_numberOfText?_text {n : Number} (h : (Json.number n).WellFormed) :
    ∃ m, numberOfText? n.text = some m ∧ m.strictEq n = true := by
  cases n with
  | integer i =>
    by_cases hwide : i < 2 ^ 63
    · exact ⟨_, numberOfText?_of_lt h.1 hwide, strictEq_number_self _⟩
    · obtain ⟨x, hx, hspelled⟩ := numberOfText?_of_le h (not_lt.mp hwide)
      refine ⟨_, hspelled, ?_⟩
      show Double.numEq (.finite x) (.ofInt i) = true
      rw [← hx]
      exact Double.numEq_ofInt_self i
  | real x =>
    rcases numberOfText?_chars x with hspelled | ⟨i, hspelled, hequal⟩
    · exact ⟨_, hspelled, strictEq_number_self _⟩
    · exact ⟨_, hspelled, hequal⟩

/-- What is a number already, or spells none, stays as it is. -/
theorem coerceNumber_coerceNumber (x : Operand) :
    x.coerceNumber.coerceNumber = x.coerceNumber := by
  by_cases hx : ∃ s, x = .ofString s
  · obtain ⟨s, rfl⟩ := hx
    cases hnumber : numberOfText? s with
    | none => simp only [coerceNumber_ofString, hnumber, Option.elim_none]
    | some n =>
      simp only [coerceNumber_ofString, hnumber, Option.elim_some]
      rfl
  · have hself : x.coerceNumber = x := coerceNumber_of_ne_ofString fun s hs => hx ⟨s, hs⟩
    rw [hself, hself]

/-- **The text of a number spells an equal number**: of an integer in range and of any double, both
zeros among them.  What is spelled may be of the other kind, an integer for a double or a double for an
integer, and then need not even have the same value; it is equal all the same.  What is spelled once
spells nothing more. -/
theorem coerceNumber_text (n : Number) (h : (Json.number n).WellFormed) :
    let number : Operand := .json (.number n)
    (∃ m, coerceNumber (.ofString number.text) = .json (.number m) ∧
      strictEq (.json (.number m)) number = true) ∧
    ∀ x : Operand, x.coerceNumber.coerceNumber = x.coerceNumber := by
  intro number
  obtain ⟨m, hspelled, hequal⟩ := exists_numberOfText?_text h
  have htext : number.text = n.text := rfl
  refine ⟨⟨m, ?_, hequal⟩, coerceNumber_coerceNumber⟩
  rw [htext, coerceNumber_ofString, hspelled, Option.elim_some]

/-- The shortest decimal of the double `2 ^ 62` is padded with zeros, and spells an integer of another
value that equals the double. -/
theorem coerceNumber_text_padded :
    let x : FiniteDouble := ⟨false, 1085 * 2 ^ 52, by decide⟩
    let n : Number := .real x
    let padded : Operand := .json (.number (.integer 4611686018427388000))
    (Json.number n).WellFormed ∧ Operand.text (.json (.number n)) = "4611686018427388000" ∧
      coerceNumber (.ofString "4611686018427388000") = padded ∧
      strictEq padded (.json (.number n)) = true := by
  intro x n padded
  have hn : (Json.number n).WellFormed := by simp [n, Json.WellFormed]
  have htext : Operand.text (.json (.number n)) = "4611686018427388000" := by decide +kernel
  have hspelled : numberOfText? "4611686018427388000" = some (.integer 4611686018427388000) := by
    decide +kernel
  have hpadded : coerceNumber (.ofString "4611686018427388000") = padded := by
    rw [coerceNumber_ofString, hspelled, Option.elim_some]
  obtain ⟨⟨m, hm, hequal⟩, -⟩ := coerceNumber_text n hn
  rw [htext, hpadded] at hm
  exact ⟨hn, htext, hpadded, hm ▸ hequal⟩

end Operand

end ApiCheck
