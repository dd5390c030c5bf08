import ApiCheck.Proofs.Number.Nearest

/-!
# Numbers beyond the doubles

The greatest double is `(2 ^ 53 - 1) · 2 ^ 971`.  A number that lies at least half a unit of its last
place above it is rounded beyond the finite doubles, and no other is: the tie goes up, since that
significand is odd.  `overflow` is this cut; `rankOfRatio_lt_iff` draws it for ratios and
`ofDecimal_eq_infinite_iff` for decimals, those too for which no power of ten is formed.
-/

namespace ApiCheck.Double

/-- The least number that is rounded beyond the finite doubles. -/
def overflow : ℚ := (2 ^ 53 - 1 / 2) * 2 ^ (971 : ℤ)

theorem overflow_lt_two_pow : overflow < 2 ^ (1024 : ℤ) := by
  have hsplit : (2 : ℚ) ^ (1024 : ℤ) = 2 ^ (53 : ℤ) * 2 ^ (971 : ℤ) := by
    rw [← zpow_add₀ two_ne_zero]
    norm_num only
  rw [overflow, hsplit]
  exact mul_lt_mul_of_pos_right (by norm_num) (by positivity)

theorem two_pow_lt_overflow : (2 : ℚ) ^ (1023 : ℤ) < overflow := by
  have hsplit : (2 : ℚ) ^ (1023 : ℤ) = 2 ^ (52 : ℤ) * 2 ^ (971 : ℤ) := by
    rw [← zpow_add₀ two_ne_zero]
    norm_num only
  rw [overflow, hsplit]
  exact mul_lt_mul_of_pos_right (by norm_num) (by positivity)

theorem overflow_pos : 0 < overflow :=
  lt_trans (by positivity) two_pow_lt_overflow

/-- The cut lies below the powers of ten that are not formed. -/
theorem overflow_lt_ten_pow : overflow < 10 ^ (309 : ℤ) := by
  have hpow : (2 : ℚ) ^ 1024 ≤ 10 ^ 309 :=
    FiniteDouble.cast_pow_le (a := 2) (b := 10) (by decide +kernel)
  refine lt_of_lt_of_le overflow_lt_two_pow ?_
  rw [zpow_ofNat, zpow_ofNat]
  exact hpow

/-! ### Ratios -/

/-- Rounding a significand carries from half a unit below the next power of two on: the greatest
significand is odd, so that the tie is rounded away from it. -/
theorem significand_lt_iff {t : ℚ} {s : ℕ} (hs : s ≤ 2 ^ 53) (h : Nearest t s) :
    s < 2 ^ 53 ↔ t < 2 ^ 53 - 1 / 2 := by
  constructor
  · intro hlt
    by_cases hlast : s = 2 ^ 53 - 1
    · have hhigh := (h.odd (by omega)).2
      have hcast : (s : ℚ) = 2 ^ 53 - 1 := by
        rw [hlast]
        norm_num
      linarith
    · have hle : s + 2 ≤ 2 ^ 53 := by omega
      have hcast : (s : ℚ) + 2 ≤ 2 ^ 53 := by exact_mod_cast hle
      linarith [h.high]
  · intro hlt
    by_contra hge
    obtain rfl : s = 2 ^ 53 := by omega
    have hlow := h.low
    push_cast at hlow
    linarith

/-- A ratio is rounded to a finite double exactly if it lies below the cut. -/
theorem rankOfRatio_lt_iff {num den : ℕ} (hden : 0 < den) :
    rankOfRatio num den < 2047 * 2 ^ 52 ↔ (num : ℚ) / den < overflow := by
  rcases Nat.eq_zero_or_pos num with rfl | hnum
  · rw [rankOfRatio, if_pos rfl, Nat.cast_zero, zero_div]
    exact iff_of_true (by decide) overflow_pos
  · obtain ⟨e, s, hparts, he, -, hs, hlead, hnearest⟩ := rankOfRatio_parts hnum hden
    rw [hparts]
    obtain hexp | rfl | hexp : e < 971 ∨ e = 971 ∨ 971 < e := by omega
    · -- A smaller exponent keeps the number below the cut, whatever the significand.
      refine iff_of_true (by omega) ?_
      have hpow : (0 : ℚ) < 2 ^ e := by positivity
      have hsignificand : (s : ℚ) ≤ 2 ^ 53 := by exact_mod_cast hs
      have hgrid : (2 : ℚ) ^ e ≤ 2 ^ (970 : ℤ) := zpow_le_zpow_right₀ one_le_two (by omega)
      have hdouble : (2 : ℚ) ^ (971 : ℤ) = 2 * 2 ^ (970 : ℤ) := by
        rw [← zpow_one_add₀ two_ne_zero]
        norm_num only
      calc (num : ℚ) / den ≤ (s + 1 / 2) * 2 ^ e := (div_le_iff₀ hpow).mp hnearest.high
        _ ≤ (2 ^ 53 + 1 / 2) * 2 ^ (970 : ℤ) :=
            mul_le_mul (by linarith) hgrid hpow.le (by norm_num)
        _ < (2 ^ 53 - 1 / 2) * 2 * 2 ^ (970 : ℤ) :=
            mul_lt_mul_of_pos_right (by norm_num) (by positivity)
        _ = overflow := by rw [overflow, hdouble, mul_assoc]
    · -- With the greatest one the significand decides.
      rw [overflow, ← div_lt_iff₀ (by positivity), ← significand_lt_iff hs hnearest]
      omega
    · -- A greater one comes with a leading bit above it.
      have hlead' := hlead (by omega)
      refine iff_of_false (by omega) (not_lt.mpr ?_)
      calc overflow ≤ 2 ^ (1024 : ℤ) := overflow_lt_two_pow.le
        _ ≤ 2 ^ (e + 52) := zpow_le_zpow_right₀ one_le_two (by omega)
        _ ≤ (num : ℚ) / den := hlead'.2

/-! ### Decimals -/

theorem ofRank_eq_finite_iff {negative : Bool} {rank : ℕ} :
    (∃ x, ofRank negative rank = .finite x) ↔ rank < 2047 * 2 ^ 52 := by
  rw [ofRank]
  split
  · next hlt => exact iff_of_true ⟨_, rfl⟩ hlt
  · next hge =>
    refine iff_of_false ?_ hge
    rintro ⟨x, hx⟩
    cases hx

/-- A decimal is rounded to a finite double exactly if it lies below the cut. -/
theorem ofDecimal_eq_finite_iff {negative : Bool} {digits : ℕ} {exponent : ℤ} :
    (∃ x, ofDecimal negative digits exponent = .finite x) ↔
      (digits : ℚ) * 10 ^ exponent < overflow := by
  simp only [ofDecimal]
  split
  · next hzero =>
    rw [hzero, Nat.cast_zero, zero_mul]
    exact iff_of_true ⟨_, rfl⟩ overflow_pos
  · next hne =>
    obtain ⟨hlow, hhigh⟩ := FiniteDouble.decimal_bounds (Nat.pos_of_ne_zero hne) exponent
    split
    · next hgreat =>
      -- So many digits exceed the cut.
      have hcut : overflow < digits * 10 ^ exponent := by
        calc overflow < 10 ^ (309 : ℤ) := overflow_lt_ten_pow
          _ ≤ 10 ^ ((Nat.toDigits 10 digits).length + exponent - 1) :=
              zpow_le_zpow_right₀ (by norm_num) (by omega)
          _ ≤ digits * 10 ^ exponent := hlow
      refine iff_of_false ?_ hcut.not_gt
      rintro ⟨x, hx⟩
      cases hx
    · split
      · next hsmall =>
        have hcut : (digits : ℚ) * 10 ^ exponent < overflow := by
          calc (digits : ℚ) * 10 ^ exponent
              < 10 ^ ((Nat.toDigits 10 digits).length + exponent) := hhigh
            _ ≤ 10 ^ (0 : ℤ) := zpow_le_zpow_right₀ (by norm_num) (by omega)
            _ ≤ 2 ^ (1023 : ℤ) := by
                rw [zpow_zero]
                exact one_le_zpow₀ one_le_two (by norm_num)
            _ < overflow := two_pow_lt_overflow
        exact iff_of_true ⟨_, rfl⟩ hcut
      · have hratio := ratio_eq_mul_zpow (b := 10) (by decide) digits exponent
        rw [ofRatio, ofRank_eq_finite_iff, rankOfRatio_lt_iff (Nat.pow_pos (by decide)), hratio,
          Nat.cast_ofNat]

theorem ofDecimal_eq_or (negative : Bool) (digits : ℕ) (exponent : ℤ) :
    (∃ x, ofDecimal negative digits exponent = .finite x) ∨
      ofDecimal negative digits exponent = .infinite negative := by
  simp only [ofDecimal, ofRatio, ofRank]
  split_ifs
  · exact .inl ⟨_, rfl⟩
  · exact .inr rfl
  · exact .inl ⟨_, rfl⟩
  · exact .inl ⟨_, rfl⟩
  · exact .inr rfl

/-- **Overflow**: a decimal is rounded to the infinite double with its sign exactly from the cut on. -/
theorem ofDecimal_eq_infinite_iff {negative : Bool} {digits : ℕ} {exponent : ℤ} :
    ofDecimal negative digits exponent = .infinite negative ↔
      overflow ≤ (digits : ℚ) * 10 ^ exponent := by
  have hfinite := @ofDecimal_eq_finite_iff negative digits exponent
  rw [← not_lt, ← hfinite]
  rcases ofDecimal_eq_or negative digits exponent with ⟨x, hx⟩ | hinfinite
  · simp [hx]
  · simp [hinfinite]

end ApiCheck.Double
