import ApiCheck.Number.Reading
import ApiCheck.Proofs.Text.Blank
import ApiCheck.Text.Digit
import Mathlib.Data.List.TakeWhile

/-!
# Numerals

A whole number that is written with decimal digits reads as itself, as long as it keeps to the limit
(`readUnsigned_toDigits`), and nothing reads as a number but digits behind an optional plus sign
(`readUnsigned_eq_ok_iff`).  The value of digits is the one that the core library gives them
(`digitsValue_eq`), so that its laws on digits apply.
-/

namespace ApiCheck

/-! ### Digits -/

theorem digitValue?_of_isDigit {c : Char} (h : c.isDigit = true) :
    digitValue? c = some (c.toNat - '0'.toNat) := by
  simp only [Char.isDigit, Bool.and_eq_true, decide_eq_true_eq] at h
  exact if_pos h

theorem isDigit_iff {c : Char} : isDigit c = true ↔ c.isDigit = true := by
  rw [isDigit, digitValue?]
  simp only [Char.isDigit, Bool.and_eq_true, decide_eq_true_eq]
  split
  · next h => exact iff_of_true rfl h
  · next h => exact iff_of_false Bool.false_ne_true h

theorem isDigit_of_isDigit {c : Char} (h : c.isDigit = true) : isDigit c = true :=
  isDigit_iff.mpr h

/-- The ASCII digits are the decimal digits of a script. -/
theorem isDecimalDigit_of_isDigit {c : Char} (h : c.isDigit = true) :
    Text.isDecimalDigit c = true := by
  simp only [Char.isDigit, Bool.and_eq_true, decide_eq_true_eq] at h
  have hlow : 0x30 ≤ c.toNat := h.1
  have hhigh : c.toNat ≤ 0x39 := h.2
  refine List.any_eq_true.mpr ⟨0x30, .head _, ?_⟩
  simp only [Bool.and_eq_true, decide_eq_true_eq]
  omega

theorem isBlank_of_isDigit {c : Char} (h : c.isDigit = true) : Text.isBlank c = false :=
  Text.isBlank_of_isDecimalDigit (isDecimalDigit_of_isDigit h)

theorem digitsValue_eq {cs : List Char} (h : ∀ c ∈ cs, c.isDigit = true) :
    digitsValue cs = Nat.ofDigitChars 10 cs 0 := by
  have hfold : ∀ acc, cs.foldl (fun acc c => 10 * acc + (digitValue? c).getD 0) acc =
      Nat.ofDigitChars 10 cs acc := by
    induction cs with
    | nil => simp
    | cons c cs ih =>
      intro acc
      obtain ⟨hc, hcs⟩ := List.forall_mem_cons.mp h
      rw [List.foldl_cons, Nat.ofDigitChars_cons, ih hcs, digitValue?_of_isDigit hc,
        Option.getD_some]
  exact hfold 0

/-- Digits that are appended make no number smaller. -/
theorem le_ofDigitChars (cs : List Char) (acc : Nat) : acc ≤ Nat.ofDigitChars 10 cs acc := by
  rw [Nat.ofDigitChars_eq_ofDigitChars_zero]
  have hpow : 0 < 10 ^ cs.length := Nat.pow_pos (by decide)
  have hacc : 1 * acc ≤ 10 ^ cs.length * acc := Nat.mul_le_mul_right acc hpow
  omega

/-! ### Whole numbers -/

/-- Digits whose value keeps to the limit are read. -/
theorem appendDigits_eq_ok {limit acc : Nat} {cs : List Char} (h : ∀ c ∈ cs, c.isDigit = true)
    (hlimit : Nat.ofDigitChars 10 cs acc ≤ limit) :
    appendDigits limit acc cs = .ok (Nat.ofDigitChars 10 cs acc) := by
  induction cs generalizing acc with
  | nil => simp [appendDigits]
  | cons c cs ih =>
    obtain ⟨hc, hcs⟩ := List.forall_mem_cons.mp h
    rw [Nat.ofDigitChars_cons] at hlimit ⊢
    have hacc := Nat.le_trans (le_ofDigitChars cs (10 * acc + (c.toNat - '0'.toNat))) hlimit
    simp only [appendDigits, digitValue?_of_isDigit hc, if_pos hacc, ih hcs hlimit]

/-- Digits whose value exceeds the limit are refused. -/
theorem appendDigits_eq_error {limit acc : Nat} {cs : List Char}
    (h : ∀ c ∈ cs, c.isDigit = true) (hacc : acc ≤ limit)
    (hlimit : limit < Nat.ofDigitChars 10 cs acc) :
    appendDigits limit acc cs = .error .tooLarge := by
  induction cs generalizing acc with
  | nil =>
    rw [Nat.ofDigitChars_nil] at hlimit
    omega
  | cons c cs ih =>
    obtain ⟨hc, hcs⟩ := List.forall_mem_cons.mp h
    rw [Nat.ofDigitChars_cons] at hlimit
    simp only [appendDigits, digitValue?_of_isDigit hc]
    split
    · next hacc' => exact ih hcs hacc' hlimit
    · rfl

theorem readDigits_eq {limit : Nat} {cs : List Char} (h : cs ≠ []) :
    readDigits limit cs = appendDigits limit 0 cs := by
  cases cs with
  | nil => exact absurd rfl h
  | cons c cs => rfl

/-- A sign in front is not a digit, so that digits are read as they stand. -/
theorem readUnsigned_eq {limit : Nat} {cs : List Char} (hne : cs ≠ [])
    (h : ∀ c ∈ cs, c.isDigit = true) : readUnsigned limit cs = appendDigits limit 0 cs := by
  unfold readUnsigned
  split
  · exact absurd rfl hne
  · exact absurd (h '+' (.head _)) (by decide)
  · exact readDigits_eq hne

theorem isDigit_of_mem_toDigits {n : Nat} : ∀ c ∈ Nat.toDigits 10 n, c.isDigit = true :=
  fun _ hc => Nat.isDigit_of_mem_toDigits (by decide) (by decide) hc

theorem isBlank_of_mem_toDigits {n : Nat} : ∀ c ∈ Nat.toDigits 10 n, Text.isBlank c = false :=
  fun c hc => isBlank_of_isDigit (isDigit_of_mem_toDigits c hc)

/-- A whole number within the limit is read from its digits. -/
theorem readUnsigned_toDigits {limit n : Nat} (h : n ≤ limit) :
    readUnsigned limit (Nat.toDigits 10 n) = .ok n := by
  have hvalue : Nat.ofDigitChars 10 (Nat.toDigits 10 n) 0 = n := Nat.ofDigitChars_ten_toDigits
  rw [readUnsigned_eq Nat.toDigits_ne_nil isDigit_of_mem_toDigits,
    appendDigits_eq_ok isDigit_of_mem_toDigits (by rw [hvalue]; exact h), hvalue]

/-- What is read at all are digits. -/
theorem isDigit_of_appendDigits {limit acc n : Nat} {cs : List Char}
    (h : appendDigits limit acc cs = .ok n) : ∀ c ∈ cs, c.isDigit = true := by
  induction cs generalizing acc with
  | nil => simp
  | cons c cs ih =>
    rw [appendDigits] at h
    split at h
    · cases h
    · next d hd =>
      have hc : isDigit c = true := by rw [isDigit, hd]; rfl
      split at h
      · exact List.forall_mem_cons.mpr ⟨isDigit_iff.mp hc, ih h⟩
      · cases h

/-- Digits are read exactly if their value keeps to the limit. -/
theorem readDigits_eq_ok_iff {limit n : Nat} {cs : List Char} :
    readDigits limit cs = .ok n ↔
      cs ≠ [] ∧ (∀ c ∈ cs, c.isDigit = true) ∧ n = Nat.ofDigitChars 10 cs 0 ∧ n ≤ limit := by
  by_cases hne : cs = []
  · subst hne
    simp [readDigits]
  · rw [readDigits_eq hne]
    constructor
    · intro h
      have hdigits := isDigit_of_appendDigits h
      rcases Nat.lt_or_ge limit (Nat.ofDigitChars 10 cs 0) with hlt | hle
      · rw [appendDigits_eq_error hdigits (Nat.zero_le limit) hlt] at h
        cases h
      · rw [appendDigits_eq_ok hdigits hle] at h
        obtain rfl := Except.ok.inj h
        exact ⟨hne, hdigits, rfl, hle⟩
    · rintro ⟨-, hdigits, rfl, hle⟩
      exact appendDigits_eq_ok hdigits hle

/-- `cs` is the number `n`, written with ASCII digits, at least one, behind an optional plus sign. -/
def Unsigned (cs : List Char) (n : Nat) : Prop :=
  ∃ sign digits, (sign = [] ∨ sign = ['+']) ∧ digits ≠ [] ∧ (∀ c ∈ digits, c.isDigit = true) ∧
    cs = sign ++ digits ∧ n = Nat.ofDigitChars 10 digits 0

/-- A whole number is read exactly if it is written so and keeps to the limit. -/
theorem readUnsigned_eq_ok_iff {limit n : Nat} {cs : List Char} :
    readUnsigned limit cs = .ok n ↔ Unsigned cs n ∧ n ≤ limit := by
  unfold readUnsigned Unsigned
  split
  · simp +contextual
  · next cs =>
    rw [readDigits_eq_ok_iff]
    constructor
    · rintro ⟨hne, hdigits, hvalue, hle⟩
      exact ⟨⟨['+'], cs, .inr rfl, hne, hdigits, rfl, hvalue⟩, hle⟩
    · rintro ⟨⟨sign, digits, rfl | rfl, hne, hdigits, hcs, hvalue⟩, hle⟩
      · obtain rfl : '+' :: cs = digits := hcs
        exact absurd (hdigits '+' List.mem_cons_self) (by decide)
      · obtain rfl : cs = digits := (List.cons.inj hcs).2
        exact ⟨hne, hdigits, hvalue, hle⟩
  · next hplus =>
    rw [readDigits_eq_ok_iff]
    constructor
    · rintro ⟨hne, hdigits, hvalue, hle⟩
      exact ⟨⟨[], cs, .inl rfl, hne, hdigits, rfl, hvalue⟩, hle⟩
    · rintro ⟨⟨sign, digits, rfl | rfl, hne, hdigits, rfl, hvalue⟩, hle⟩
      · exact ⟨hne, hdigits, hvalue, hle⟩
      · exact absurd rfl (hplus digits)

/-! ### Decimals -/

/-- `cs` is a decimal in positional notation: digits, with a point and further digits behind them or
without, that denote `digits · 10 ^ exponent`. -/
inductive Positional : (cs : List Char) → (digits : Nat) → (exponent : Int) → Prop
  | whole {whole : List Char} (hne : whole ≠ []) (h : ∀ c ∈ whole, c.isDigit = true) :
    Positional whole (Nat.ofDigitChars 10 whole 0) 0
  | point {whole fraction : List Char} (hne : fraction ≠ [])
    (h : ∀ c ∈ whole ++ fraction, c.isDigit = true) :
    Positional (whole ++ '.' :: fraction) (Nat.ofDigitChars 10 (whole ++ fraction) 0)
      (-fraction.length)

namespace Positional

variable {cs : List Char} {digits : Nat} {exponent : Int}

theorem readDecimal?_eq (h : Positional cs digits exponent) :
    readDecimal? cs = some (digits, exponent) := by
  have hisDigit : ∀ {ds : List Char}, (∀ c ∈ ds, c.isDigit = true) → ∀ c ∈ ds, isDigit c = true :=
    fun h c hc => isDigit_of_isDigit (h c hc)
  cases h with
  | whole hne h =>
    have htake := List.takeWhile_eq_self_iff.mpr (hisDigit h)
    have hdrop := List.dropWhile_eq_nil_iff.mpr (hisDigit h)
    simp [readDecimal?, htake, hdrop, hne, digitsValue_eq h]
  | @point whole fraction hne h =>
    obtain ⟨hwhole, hfraction⟩ := List.forall_mem_append.mp h
    have hpoint : ¬isDigit '.' = true := by decide
    have htake : (whole ++ '.' :: fraction).takeWhile isDigit = whole := by
      rw [List.takeWhile_append_of_pos (hisDigit hwhole), List.takeWhile_cons_of_neg hpoint,
        List.append_nil]
    have hdrop : (whole ++ '.' :: fraction).dropWhile isDigit = '.' :: fraction := by
      rw [List.dropWhile_append_of_pos (hisDigit hwhole), List.dropWhile_cons_of_neg hpoint]
    have htake' := List.takeWhile_eq_self_iff.mpr (hisDigit hfraction)
    have hdrop' := List.dropWhile_eq_nil_iff.mpr (hisDigit hfraction)
    simp [readDecimal?, htake, hdrop, htake', hdrop', hne, digitsValue_eq h]

/-- A decimal has no sign in front. -/
theorem readDouble_eq (h : Positional cs digits exponent) :
    readDouble cs = readMagnitude? false cs := by
  have hsign : ∀ c ∈ cs.head?, c.isDigit = true ∨ c = '.' := by
    cases h with
    | whole hne h => exact fun c hc => .inl (h c (List.mem_of_mem_head? hc))
    | @point whole fraction hne h =>
      cases whole with
      | nil => simp
      | cons c whole => simpa using .inl (h c (.head _))
  unfold readDouble
  split
  · exact absurd (hsign '-' rfl) (by decide)
  · exact absurd (hsign '+' rfl) (by decide)
  · rfl

theorem digit_or_point (h : Positional cs digits exponent) :
    ∀ c ∈ cs, c.isDigit = true ∨ c = '.' := by
  intro c hc
  cases h with
  | whole hne hdigits => exact .inl (hdigits c hc)
  | @point whole fraction hne hdigits =>
    obtain ⟨hwhole, hfraction⟩ := List.forall_mem_append.mp hdigits
    rcases List.mem_append.mp hc with hc | hc
    · exact .inl (hwhole c hc)
    · rcases List.mem_cons.mp hc with rfl | hc
      · exact .inr rfl
      · exact .inl (hfraction c hc)

theorem of_whole {ds : List Char} (hne : ds ≠ []) (h : ∀ c ∈ ds, isDigit c = true) :
    Positional ds (digitsValue ds) 0 := by
  have hall : ∀ c ∈ ds, c.isDigit = true := fun c hc => isDigit_iff.mp (h c hc)
  rw [digitsValue_eq hall]
  exact .whole hne hall

theorem of_point {ds fraction : List Char} (hne : fraction ≠ [])
    (h : ∀ c ∈ ds, isDigit c = true) (h' : ∀ c ∈ fraction, isDigit c = true) :
    Positional (ds ++ '.' :: fraction) (digitsValue (ds ++ fraction)) (-fraction.length) := by
  have hall : ∀ c ∈ ds ++ fraction, c.isDigit = true := fun c hc =>
    isDigit_iff.mp ((List.mem_append.mp hc).elim (h c) (h' c))
  rw [digitsValue_eq hall]
  exact .point hne hall

end Positional

/-- What is read without the mark of an exponent, and without a point at its end, is a decimal in
positional notation. -/
theorem positional_of_readDecimal? {cs : List Char} {digits : Nat} {exponent : Int}
    (h : readDecimal? cs = some (digits, exponent)) (hmark : ∀ c ∈ cs, c ≠ 'e' ∧ c ≠ 'E')
    (hlast : cs.getLast? ≠ some '.') : Positional cs digits exponent := by
  have hsplit := List.takeWhile_append_dropWhile (p := isDigit) (l := cs)
  have hwhole : ∀ c ∈ cs.takeWhile isDigit, isDigit c = true := fun c hc =>
    List.mem_takeWhile_imp hc
  simp only [readDecimal?] at h
  generalize cs.takeWhile isDigit = whole at *
  generalize cs.dropWhile isDigit = rest at *
  subst hsplit
  have hmarkRest : ∀ c ∈ rest, c ≠ 'e' ∧ c ≠ 'E' := fun c hc => hmark c (List.mem_append_right _ hc)
  split at h
  · next after =>
    have hafter := List.takeWhile_append_dropWhile (p := isDigit) (l := after)
    have hfraction : ∀ c ∈ after.takeWhile isDigit, isDigit c = true := fun c hc =>
      List.mem_takeWhile_imp hc
    have hmarkAfter : ∀ c ∈ after.dropWhile isDigit, c ≠ 'e' ∧ c ≠ 'E' := fun c hc =>
      hmarkRest c (List.mem_cons_of_mem _ ((List.dropWhile_suffix _).mem hc))
    simp only at h
    split at h
    · cases h
    · split at h
      · next hend =>
        rw [hend, List.append_nil] at hafter
        rw [hafter] at h hfraction
        cases h
        -- Without digits behind it the point would stand at the end.
        refine .of_point ?_ hwhole hfraction
        rintro rfl
        simp at hlast
      · next hexp => exact absurd rfl (hmarkAfter 'e' (hexp ▸ List.mem_cons_self)).1
      · next hexp => exact absurd rfl (hmarkAfter 'E' (hexp ▸ List.mem_cons_self)).2
      · cases h
  · simp only [List.isEmpty_nil, Bool.and_true, List.append_nil] at h
    split at h
    · cases h
    · next hne =>
      split at h
      · cases h
        rw [List.append_nil]
        exact .of_whole (by simpa using hne) hwhole
      · exact absurd rfl (hmarkRest 'e' List.mem_cons_self).1
      · exact absurd rfl (hmarkRest 'E' List.mem_cons_self).2
      · cases h

/-- The words that denote a double all have an `n`, so that a text without one is read as a decimal. -/
theorem readMagnitude?_of_wordless {negative : Bool} {cs : List Char}
    (h : ∀ c ∈ cs, c.toLower ≠ 'n') :
    readMagnitude? negative cs =
      (readDecimal? cs).map fun (digits, exponent) => .ofDecimal negative digits exponent := by
  have hword : ∀ word : String, 'n' ∈ word.toList → String.ofList (cs.map Char.toLower) ≠ word := by
    intro word hn heq
    rw [← heq, String.toList_ofList, List.mem_map] at hn
    obtain ⟨c, hc, hlower⟩ := hn
    exact h c hc hlower
  rw [readMagnitude?]
  split
  · next hdecimal => rw [hdecimal, Option.map_some]
  · next hnone =>
    rw [hnone, Option.map_none, if_neg, if_neg (hword _ (by decide))]
    exact not_or.mpr ⟨hword _ (by decide), hword _ (by decide)⟩

/-- A decimal in positional notation with an optional minus sign in front. -/
inductive Signed : (cs : List Char) → (negative : Bool) → (digits : Nat) → (exponent : Int) → Prop
  | plain {cs : List Char} {digits : Nat} {exponent : Int} (h : Positional cs digits exponent) :
    Signed cs false digits exponent
  | minus {cs : List Char} {digits : Nat} {exponent : Int} (h : Positional cs digits exponent) :
    Signed ('-' :: cs) true digits exponent

namespace Signed

variable {cs : List Char} {negative : Bool} {digits : Nat} {exponent : Int}

theorem readDouble_eq (h : Signed cs negative digits exponent) :
    readDouble cs = some (.ofDecimal negative digits exponent) := by
  cases h with
  | plain h => rw [h.readDouble_eq, readMagnitude?, h.readDecimal?_eq]
  | minus h => rw [readDouble, readMagnitude?, h.readDecimal?_eq]

/-- Such a decimal has no characters but digits, a point and the minus sign. -/
theorem digit_or_mark (h : Signed cs negative digits exponent) :
    ∀ c ∈ cs, c.isDigit = true ∨ c = '.' ∨ c = '-' := by
  intro c hc
  cases h with
  | plain h => exact (h.digit_or_point c hc).imp_right .inl
  | minus h =>
    rcases List.mem_cons.mp hc with rfl | hc
    · exact .inr (.inr rfl)
    · exact (h.digit_or_point c hc).imp_right .inl

theorem trimmed (h : Signed cs negative digits exponent) : Text.Trimmed cs := by
  refine Text.trimmed_of_not_blank fun c hc => ?_
  rcases h.digit_or_mark c hc with hdigit | rfl | rfl
  · exact isBlank_of_isDigit hdigit
  · decide
  · decide

end Signed

end ApiCheck
