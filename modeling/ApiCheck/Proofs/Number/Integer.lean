import ApiCheck.Proofs.Number.Overflow
import ApiCheck.Proofs.Number.Reading

/-!
# Texts of integers

The text of an integer is its digits, behind a minus sign if it is negative.  It is read as that
integer if it has sixty-four bits and a sign (`readSigned64_toString`), and always as the double that
is nearest to it (`readDouble_toString`).  An integer of sixty-four bits differs from this double by at
most `2 ^ 10` (`abs_sub_le_of_ofInt`).
-/

namespace ApiCheck

/-! ### Characters -/

theorem toList_toString_of_nonneg {n : ℤ} (h : 0 ≤ n) :
    (toString n).toList = Nat.toDigits 10 n.natAbs := by
  cases n with
  | ofNat m => exact Nat.toList_repr
  | negSucc m => exact absurd h (by omega)

theorem toList_toString_of_neg {n : ℤ} (h : n < 0) :
    (toString n).toList = '-' :: Nat.toDigits 10 n.natAbs := by
  cases n with
  | ofNat m => exact absurd h (by simp)
  | negSucc m =>
    show ("-" ++ Nat.repr (m + 1)).toList = _
    rw [String.toList_append, Nat.toList_repr]
    rfl

theorem mem_toString {n : ℤ} {c : Char} (hc : c ∈ (toString n).toList) :
    c = '-' ∨ c.isDigit = true := by
  by_cases h : 0 ≤ n
  · rw [toList_toString_of_nonneg h] at hc
    exact .inr (isDigit_of_mem_toDigits c hc)
  · rw [toList_toString_of_neg (by omega)] at hc
    rcases List.mem_cons.mp hc with rfl | hc
    · exact .inl rfl
    · exact .inr (isDigit_of_mem_toDigits c hc)

/-- The text of an integer has no blank ends. -/
theorem trimmed_toString (n : ℤ) : Text.Trimmed (toString n).toList := by
  refine Text.trimmed_of_not_blank fun c hc => ?_
  rcases mem_toString hc with rfl | hdigit
  · decide
  · exact isBlank_of_isDigit hdigit

/-! ### Integers of sixty-four bits -/

/-- Digits are read up to the limit. -/
theorem toOption_readDigits_toDigits (limit n : ℕ) :
    (readDigits limit (Nat.toDigits 10 n)).toOption = if n ≤ limit then some n else none := by
  have hvalue : Nat.ofDigitChars 10 (Nat.toDigits 10 n) 0 = n := Nat.ofDigitChars_ten_toDigits
  rw [readDigits_eq Nat.toDigits_ne_nil]
  by_cases h : n ≤ limit
  · rw [appendDigits_eq_ok isDigit_of_mem_toDigits (by rwa [hvalue]), hvalue, if_pos h]
    rfl
  · have hlimit : limit < Nat.ofDigitChars 10 (Nat.toDigits 10 n) 0 := by
      rw [hvalue]
      omega
    rw [appendDigits_eq_error isDigit_of_mem_toDigits (Nat.zero_le _) hlimit, if_neg h]
    rfl

/-- Digits have no sign in front. -/
theorem readSigned64_toDigits (n : ℕ) :
    readSigned64 (Nat.toDigits 10 n) =
      (readDigits (2 ^ 63 - 1) (Nat.toDigits 10 n)).toOption.map Int.ofNat := by
  have hdigit : ∀ c ∈ Nat.toDigits 10 n, c.isDigit = true := isDigit_of_mem_toDigits
  generalize Nat.toDigits 10 n = cs at hdigit ⊢
  unfold readSigned64
  split
  · exact absurd (hdigit '-' (.head _)) (by decide)
  · exact absurd (hdigit '+' (.head _)) (by decide)
  · rfl

/-- The text of an integer is read as that integer if it has sixty-four bits and a sign. -/
theorem readSigned64_toString (n : ℤ) :
    readSigned64 (toString n).toList = if -2 ^ 63 ≤ n ∧ n < 2 ^ 63 then some n else none := by
  by_cases hsign : 0 ≤ n
  · rw [toList_toString_of_nonneg hsign, readSigned64_toDigits, toOption_readDigits_toDigits]
    by_cases hn : n < 2 ^ 63
    · rw [if_pos (by omega), if_pos (by omega), Option.map_some]
      exact congrArg some (Int.natAbs_of_nonneg hsign)
    · rw [if_neg (by omega), if_neg (by omega), Option.map_none]
  · rw [toList_toString_of_neg (by omega), readSigned64, toOption_readDigits_toDigits]
    by_cases hn : -2 ^ 63 ≤ n
    · rw [if_pos (by omega), if_pos (by omega)]
      show some (-(n.natAbs : ℤ)) = some n
      exact congrArg some (by omega)
    · rw [if_neg (by omega), if_neg (by omega)]
      rfl

/-! ### Doubles -/

/-- A whole decimal is rounded as the whole number. -/
theorem Double.ofDecimal_whole (negative : Bool) (digits : ℕ) :
    ofDecimal negative digits 0 = ofRatio negative digits 1 := by
  simp only [ofDecimal]
  split
  · next hzero =>
    rw [hzero]
    rfl
  · next hne =>
    split
    · next hgreat =>
      -- So many digits are infinite either way.
      have hinfinite : ofDecimal negative digits 0 = .infinite negative := by
        simp only [ofDecimal, if_neg hne, if_pos hgreat]
      have hcut := ofDecimal_eq_infinite_iff.mp hinfinite
      have hrank : ¬ rankOfRatio digits 1 < 2047 * 2 ^ 52 := by
        rw [rankOfRatio_lt_iff Nat.one_pos, Nat.cast_one, div_one, not_lt]
        rwa [zpow_zero, mul_one] at hcut
      rw [ofRatio, ofRank, dif_neg hrank]
    · rw [if_neg (by omega)]
      show ofRatio negative (digits * 1) 1 = _
      rw [Nat.mul_one]

theorem signed_toString (n : ℤ) : Signed (toString n).toList (decide (n < 0)) n.natAbs 0 := by
  have hvalue : Nat.ofDigitChars 10 (Nat.toDigits 10 n.natAbs) 0 = n.natAbs :=
    Nat.ofDigitChars_ten_toDigits
  have hwhole : Positional (Nat.toDigits 10 n.natAbs) n.natAbs 0 := by
    have hdigits := Positional.whole Nat.toDigits_ne_nil (isDigit_of_mem_toDigits (n := n.natAbs))
    rwa [hvalue] at hdigits
  by_cases h : n < 0
  · rw [toList_toString_of_neg h, decide_eq_true h]
    exact .minus hwhole
  · rw [toList_toString_of_nonneg (not_lt.mp h), decide_eq_false h]
    exact .plain hwhole

/-- The text of an integer is read as the double to which the integer is rounded. -/
theorem readDouble_toString (n : ℤ) : readDouble (toString n).toList = some (.ofInt n) := by
  rw [(signed_toString n).readDouble_eq, Double.ofDecimal_whole]
  rfl

/-- An integer of sixty-four bits is rounded by at most half of `2 ^ 11`, the greatest distance between
doubles of this size. -/
theorem Double.abs_sub_le_of_ofInt {n : ℤ} (h : n.natAbs < 2 ^ 64) {x : FiniteDouble}
    (hx : ofInt n = .finite x) : |(n : ℚ) - x.value| ≤ 2 ^ 10 := by
  obtain ⟨hsign, hrank⟩ := ofRatio_eq_finite.mp hx
  rcases Nat.eq_zero_or_pos n.natAbs with hzero | hpos
  · have hmagnitude : |x.value| = 0 := by
      rw [FiniteDouble.abs_value]
      refine FiniteDouble.magnitude_of_rank_eq_zero ?_
      rw [hrank, hzero, rankOfRatio, if_pos rfl]
    obtain rfl : n = 0 := by omega
    rw [Int.cast_zero, zero_sub, abs_neg, hmagnitude]
    positivity
  · obtain ⟨e, s, hparts, he, hle, hs, hlead, hnearest⟩ := rankOfRatio_parts hpos Nat.one_pos
    rw [Nat.cast_one, div_one] at hle hlead hnearest
    have hexp : e ≤ 11 := by
      have hlt : ((n.natAbs : ℕ) : ℚ) < (2 : ℕ) ^ ((63 : ℤ) + 1) := by
        have hcast : ((n.natAbs : ℕ) : ℚ) < (2 ^ 64 : ℕ) := by exact_mod_cast h
        refine lt_of_lt_of_le hcast ?_
        norm_num
      have hlog := (Int.lt_zpow_iff_log_lt (b := 2) one_lt_two (by exact_mod_cast hpos)).mp hlt
      omega
    have hpow : (0 : ℚ) < 2 ^ e := by positivity
    have hmagnitude := FiniteDouble.magnitude_of_rank he hs (fun h => (hlead h).1)
      (hrank.trans hparts)
    have hunits : |(n.natAbs : ℚ) / 2 ^ e - s| ≤ 1 / 2 :=
      abs_le.mpr ⟨by linarith [hnearest.low], by linarith [hnearest.high]⟩
    have hdistance : |(n.natAbs : ℚ) - x.magnitude| ≤ 2 ^ 10 := by
      calc |(n.natAbs : ℚ) - x.magnitude| = |(n.natAbs : ℚ) / 2 ^ e - s| * 2 ^ e := by
            rw [hmagnitude, ← abs_of_pos hpow, ← abs_mul, abs_of_pos hpow, sub_mul,
              div_mul_cancel₀ _ hpow.ne']
        _ ≤ 1 / 2 * 2 ^ (11 : ℤ) :=
            mul_le_mul hunits (zpow_le_zpow_right₀ one_le_two hexp) hpow.le (by norm_num)
        _ = 2 ^ 10 := by norm_num
    have hn := signed_natAbs n
    rw [FiniteDouble.value, hsign]
    split at hn
    · next hneg =>
      rw [if_pos hneg, ← hn, neg_sub_neg, abs_sub_comm]
      exact hdistance
    · next hneg =>
      rw [if_neg hneg, ← hn]
      exact hdistance

end ApiCheck
