import ApiCheck.Proofs.Number.Value

/-!
# Rounding gives the nearest double

The double that a ratio is rounded to is the nearest to it (`nearestTo_of_ofRatio`).  The doubles with
the exponent that rounding takes, or a greater one, are multiples of one power of two, of which the
nearest is taken (`Nearest.le_abs_sub`); all others lie below the leading bit and cannot be nearer
(`Nearest.le_abs_sub_of_onGrid`).

An integer of sixty-four bits is numerically equal to exactly the doubles that are nearest to it
(`numEq_ofInt_iff`).  Up to `2 ^ 53` these have its value (`exists_value_eq`).
-/

namespace ApiCheck

namespace Double

/-! ### Whole numbers -/

/-- A quotient is rounded to the next whole number, and to the even one of two. -/
theorem nearest_roundQuotient {num den : ℕ} (hden : 0 < den) :
    Nearest ((num : ℚ) / den) (roundQuotient num den) := by
  have hden' : (0 : ℚ) < den := by exact_mod_cast hden
  have hdivMod : (num : ℚ) = den * (num / den : ℕ) + (num % den : ℕ) := by
    exact_mod_cast (Nat.div_add_mod num den).symm
  have hmod : ((num % den : ℕ) : ℚ) < den := by exact_mod_cast Nat.mod_lt num hden
  have hmod' : (0 : ℚ) ≤ (num % den : ℕ) := Nat.cast_nonneg _
  simp only [roundQuotient]
  generalize num % den = r at *
  generalize num / den = q at *
  have hquotient : (num : ℚ) / den = q + r / den := by
    rw [hdivMod]
    field_simp
  rw [hquotient]
  split
  · next hup =>
    -- The quotient is rounded up, a tie only if it is odd.
    simp only [Bool.or_eq_true, Bool.and_eq_true, decide_eq_true_eq, beq_iff_eq] at hup
    have hhalf : (1 : ℚ) / 2 ≤ r / den := by
      rw [div_le_div_iff₀ two_pos hden']
      exact_mod_cast (by omega : 1 * den ≤ r * 2)
    have hless : (r : ℚ) / den < 1 := by rwa [div_lt_one hden']
    refine ⟨by push_cast; linarith, by push_cast; linarith, fun hodd => ?_⟩
    have hhalf' : (1 : ℚ) / 2 < r / den := by
      rw [div_lt_div_iff₀ two_pos hden']
      exact_mod_cast (by omega : 1 * den < r * 2)
    exact ⟨by push_cast; linarith, by push_cast; linarith⟩
  · next hdown =>
    -- The quotient is rounded down, a tie only if it is even.
    simp only [Bool.or_eq_true, Bool.and_eq_true, decide_eq_true_eq, beq_iff_eq] at hdown
    have hhalf : (r : ℚ) / den ≤ 1 / 2 := by
      rw [div_le_div_iff₀ hden' two_pos]
      exact_mod_cast (by omega : r * 2 ≤ 1 * den)
    have hnonneg : (0 : ℚ) ≤ r / den := by positivity
    refine ⟨by linarith, by linarith, fun hodd => ?_⟩
    have hhalf' : (r : ℚ) / den < 1 / 2 := by
      rw [div_lt_div_iff₀ hden' two_pos]
      exact_mod_cast (by omega : r * 2 < 1 * den)
    exact ⟨by linarith, by linarith⟩

/-- No whole number lies nearer than the one that a number is rounded to, and an odd one is nearer
than all others. -/
theorem Nearest.le_abs_sub {t : ℚ} {s : ℕ} (h : Nearest t s) (k : ℤ) :
    |t - s| ≤ |t - k| ∧ ((k : ℚ) ≠ s → |t - k| = |t - s| → s % 2 = 0) := by
  have hs : |t - s| ≤ 1 / 2 := abs_le.mpr ⟨by linarith [h.low], by linarith [h.high]⟩
  by_cases hk : k = s
  · rw [hk, Int.cast_natCast]
    exact ⟨le_refl _, fun hne => absurd rfl hne⟩
  · -- Another whole number lies at least half a unit away.
    have hunit : (1 : ℚ) ≤ |(s : ℚ) - k| := by
      have hint : 1 ≤ |(s : ℤ) - k| := Int.one_le_abs (by omega)
      exact_mod_cast hint
    have htriangle : |(s : ℚ) - k| ≤ |t - s| + |t - k| := by
      have hsum := abs_sub_le (s : ℚ) t k
      rwa [abs_sub_comm (s : ℚ) t] at hsum
    refine ⟨by linarith, fun _ htie => ?_⟩
    by_contra hodd
    obtain ⟨hlow, hhigh⟩ := h.odd (by omega)
    have hless : |t - s| < 1 / 2 := abs_lt.mpr ⟨by linarith, by linarith⟩
    linarith

/-- On the grid of its exponent no number lies nearer than the multiple that a number is rounded to. -/
theorem Nearest.le_abs_sub_of_onGrid {v w : ℚ} {e : ℤ} {s : ℕ} (h : Nearest (v / 2 ^ e) s)
    (hv : -1074 < e → 2 ^ (e + 52) ≤ v) (hw : FiniteDouble.OnGrid e w) :
    |v - s * 2 ^ e| ≤ |v - w| ∧ (w ≠ s * 2 ^ e → |v - w| = |v - s * 2 ^ e| → s % 2 = 0) := by
  have hpow : (0 : ℚ) < 2 ^ e := by positivity
  have hscale : ∀ t : ℚ, |v - t * 2 ^ e| = |v / 2 ^ e - t| * 2 ^ e := by
    intro t
    rw [← abs_of_pos hpow, ← abs_mul, abs_of_pos hpow, sub_mul, div_mul_cancel₀ v hpow.ne']
  rcases hw with ⟨k, rfl⟩ | ⟨he, hw⟩
  · obtain ⟨hle, htie⟩ := h.le_abs_sub k
    rw [hscale, hscale]
    refine ⟨mul_le_mul_of_nonneg_right hle hpow.le, fun hne heq => htie ?_ ?_⟩
    · exact fun hk => hne (by rw [hk])
    · exact mul_right_cancel₀ hpow.ne' heq
  · -- The smallest multiple with a leading bit lies nearer than what is below it.
    have hlead : (2 : ℚ) ^ (e + 52) = ((2 ^ 52 : ℤ) : ℚ) * 2 ^ e := by
      rw [zpow_add₀ two_ne_zero, mul_comm]
      norm_cast
    have hle : |v - s * 2 ^ e| ≤ v - 2 ^ (e + 52) := by
      have hlead' := mul_le_mul_of_nonneg_right (h.le_abs_sub (2 ^ 52)).1 hpow.le
      rwa [← hscale, ← hscale, ← hlead, abs_of_nonneg (sub_nonneg.mpr (hv he))] at hlead'
    have hless : v - 2 ^ (e + 52) < |v - w| :=
      lt_of_lt_of_le (by linarith [(abs_lt.mp hw).2]) (le_abs_self (v - w))
    exact ⟨by linarith, fun _ heq => by linarith⟩

/-- What rounding makes of a ratio that is not zero: a rank with its exponent and significand. -/
theorem rankOfRatio_parts {num den : ℕ} (hnum : 0 < num) (hden : 0 < den) :
    ∃ (e : ℤ) (s : ℕ), rankOfRatio num den = (e + 1074).toNat * 2 ^ 52 + s ∧ -1074 ≤ e ∧
      e ≤ max (Int.log 2 ((num : ℚ) / den) - 52) (-1074) ∧ s ≤ 2 ^ 53 ∧
      (-1074 < e → 2 ^ 52 ≤ s ∧ (2 : ℚ) ^ (e + 52) ≤ (num : ℚ) / den) ∧
      Nearest ((num : ℚ) / den / 2 ^ e) s := by
  have hv : (0 : ℚ) < (num : ℚ) / den := by positivity
  obtain ⟨e, he⟩ : ∃ e, e = max (Int.log 2 ((num : ℚ) / den) - 52) (-1074) := ⟨_, rfl⟩
  obtain ⟨s, hs⟩ : ∃ s, s = roundQuotient (num * 2 ^ (-e).toNat) (den * 2 ^ e.toNat) := ⟨_, rfl⟩
  have hpow : (0 : ℚ) < 2 ^ e := by positivity
  have hnearest : Nearest ((num : ℚ) / den / 2 ^ e) s := by
    have hscaled := scaled_ratio (b := 2) two_pos num den e
    rw [Nat.cast_ofNat] at hscaled
    rw [hs, ← hscaled]
    exact nearest_roundQuotient (Nat.mul_pos hden (Nat.two_pow_pos _))
  have hhigh : (num : ℚ) / den / 2 ^ e < 2 ^ 53 := by
    have hlog : (num : ℚ) / den < 2 ^ (e + 53) := by
      refine lt_of_lt_of_le (Int.lt_zpow_succ_log_self one_lt_two _) ?_
      exact zpow_le_zpow_right₀ (by norm_num) (by omega)
    rw [div_lt_iff₀ hpow]
    rw [zpow_add₀ two_ne_zero, mul_comm] at hlog
    exact_mod_cast hlog
  have hlow : -1074 < e → (2 : ℚ) ^ (e + 52) ≤ (num : ℚ) / den := by
    intro hexp
    have hlog := Int.zpow_log_le_self (b := 2) one_lt_two hv
    rw [Nat.cast_ofNat] at hlog
    exact le_trans (zpow_le_zpow_right₀ one_le_two (by omega)) hlog
  refine ⟨e, s, ?_, by omega, he.le, ?_, fun hexp => ⟨?_, hlow hexp⟩, hnearest⟩
  · simp only [rankOfRatio, if_neg hnum.ne', floorLog2_eq_log hnum hden]
    rw [← he, ← hs]
  · -- A significand above the range would lie more than half a unit away.
    have hless : (s : ℚ) < (2 ^ 53 + 1 : ℕ) := by
      push_cast
      linarith [hnearest.low]
    have hless' : s < 2 ^ 53 + 1 := by exact_mod_cast hless
    omega
  · have hunits : (2 : ℚ) ^ 52 ≤ (num : ℚ) / den / 2 ^ e := by
      have hlow' := hlow hexp
      rw [zpow_add₀ two_ne_zero, mul_comm] at hlow'
      rw [le_div_iff₀ hpow]
      exact_mod_cast hlow'
    have hless : ((2 ^ 52 : ℕ) : ℚ) < (s + 1 : ℕ) := by
      push_cast
      linarith [hnearest.high]
    have hless' : 2 ^ 52 < s + 1 := by exact_mod_cast hless
    omega

theorem ofRatio_eq_finite {negative : Bool} {num den : ℕ} {x : FiniteDouble} :
    ofRatio negative num den = .finite x ↔ x.negative = negative ∧ x.rank = rankOfRatio num den := by
  simp only [ofRatio, ofRank]
  split
  · constructor
    · intro h
      obtain rfl := Double.finite.inj h
      exact ⟨rfl, rfl⟩
    · rintro ⟨rfl, hrank⟩
      simp only [← hrank]
  · next hge =>
    constructor
    · intro h
      cases h
    · rintro ⟨-, hrank⟩
      exact absurd (hrank ▸ x.rank_lt) hge

theorem nearestTo_of_rank {num den : ℕ} (hden : 0 < den) {x : FiniteDouble}
    (hsign : x.negative = false) (hrank : x.rank = rankOfRatio num den) :
    x.NearestTo ((num : ℚ) / den) := by
  have hvalue : x.value = x.magnitude := by simp [FiniteDouble.value, hsign]
  rcases Nat.eq_zero_or_pos num with rfl | hnum
  · have hzero : x.value = 0 := by
      have hrank' : x.rank = 0 := by rw [hrank, rankOfRatio, if_pos rfl]
      rw [hvalue]
      exact FiniteDouble.magnitude_of_rank_eq_zero hrank'
    have hnearest := x.nearestTo_value
    rw [hzero] at hnearest
    rwa [Nat.cast_zero, zero_div]
  · obtain ⟨e, s, hparts, he, -, hs, hlead, hnearest⟩ := rankOfRatio_parts hnum hden
    rw [hparts] at hrank
    have heven : x.significand % 2 = s % 2 := by
      rw [FiniteDouble.significand_mod_two, hrank]
      omega
    have hgrid : ∀ y : FiniteDouble, _ := fun y =>
      hnearest.le_abs_sub_of_onGrid (fun h => (hlead h).2) (y.value_onGrid he)
    rw [← FiniteDouble.magnitude_of_rank he hs (fun h => (hlead h).1) hrank, ← hvalue,
      ← heven] at hgrid
    exact ⟨fun y => (hgrid y).1, fun y => (hgrid y).2⟩

/-- **Rounding gives the nearest double**, the even one of two, as long as it is finite. -/
theorem nearestTo_of_ofRatio {negative : Bool} {num den : ℕ} (hden : 0 < den) {x : FiniteDouble}
    (h : ofRatio negative num den = .finite x) :
    x.NearestTo (if negative then -((num : ℚ) / den) else (num : ℚ) / den) := by
  obtain ⟨rfl, hrank⟩ := ofRatio_eq_finite.mp h
  cases hsign : x.negative with
  | false => exact nearestTo_of_rank hden hsign hrank
  | true =>
    -- The number with the other sign is rounded to the double with the other sign.
    have hneg : x.neg.NearestTo ((num : ℚ) / den) :=
      nearestTo_of_rank hden (by simp [FiniteDouble.neg, hsign]) hrank
    have hnearest := hneg.neg
    rwa [FiniteDouble.neg_neg_eq] at hnearest

/-- An integer is put together again from its sign and its size. -/
theorem signed_natAbs (n : ℤ) :
    (if decide (n < 0) = true then -((n.natAbs : ℕ) : ℚ) else (n.natAbs : ℕ)) = n := by
  rw [Nat.cast_natAbs, Int.cast_abs]
  by_cases hn : n < 0
  · have hn' : (n : ℚ) < 0 := by exact_mod_cast hn
    rw [if_pos (decide_eq_true hn), abs_of_neg hn', neg_neg]
  · have hn' : (0 : ℚ) ≤ n := by exact_mod_cast not_lt.mp hn
    rw [decide_eq_false hn, if_neg Bool.false_ne_true, abs_of_nonneg hn']

/-- The double nearest to an integer, as long as it is finite. -/
theorem nearestTo_of_ofInt {n : ℤ} {x : FiniteDouble} (h : ofInt n = .finite x) :
    x.NearestTo n := by
  have hnearest := nearestTo_of_ofRatio Nat.one_pos h
  rwa [Nat.cast_one, div_one, signed_natAbs] at hnearest

/-- An integer of at most sixty-four bits is rounded to a finite double. -/
theorem exists_ofInt {n : ℤ} (h : n.natAbs ≤ 2 ^ 64) : ∃ x, ofInt n = .finite x := by
  have hrank : rankOfRatio n.natAbs 1 < 2047 * 2 ^ 52 := by
    rcases Nat.eq_zero_or_pos n.natAbs with hzero | hpos
    · rw [hzero, rankOfRatio, if_pos rfl]
      decide
    · obtain ⟨e, s, hparts, -, he, hs, -, -⟩ := rankOfRatio_parts hpos Nat.one_pos
      have hlog : Int.log 2 ((n.natAbs : ℚ) / (1 : ℕ)) ≤ 64 := by
        have hle : ((n.natAbs : ℕ) : ℚ) / (1 : ℕ) < (2 : ℕ) ^ ((64 : ℤ) + 1) := by
          rw [Nat.cast_one, div_one]
          calc ((n.natAbs : ℕ) : ℚ) ≤ (2 ^ 64 : ℕ) := by exact_mod_cast h
            _ < (2 : ℕ) ^ ((64 : ℤ) + 1) := by norm_num
        have hpos' : (0 : ℚ) < (n.natAbs : ℚ) / (1 : ℕ) := by positivity
        have hlt := (Int.lt_zpow_iff_log_lt (b := 2) one_lt_two hpos').mp hle
        omega
      rw [hparts]
      omega
  exact ⟨⟨decide (n < 0), _, hrank⟩, ofRatio_eq_finite.mpr ⟨rfl, rfl⟩⟩

/-- Natural numbers up to `2 ^ 53` are multiples of the power of two that rounding takes for them. -/
theorem exists_div_zpow {n : ℕ} {e : ℤ} (h : n ≤ 2 ^ 53) (he : 0 < e → (2 : ℚ) ^ (e + 52) ≤ n) :
    ∃ k : ℤ, (n : ℚ) / 2 ^ e = k := by
  by_cases hneg : e ≤ 0
  · refine ⟨(n * 2 ^ (-e).toNat : ℕ), ?_⟩
    have hpow : (2 : ℚ) ^ (-e).toNat = 2 ^ (-e) := by
      rw [← zpow_natCast, Int.toNat_of_nonneg (by omega)]
    push_cast
    rw [hpow, zpow_neg, div_eq_mul_inv]
  · -- Only the greatest of them takes a positive exponent.
    have hle : (2 : ℚ) ^ (e + 52) ≤ 2 ^ (53 : ℤ) := by
      refine le_trans (he (by omega)) ?_
      exact_mod_cast h
    have hexp := (zpow_le_zpow_iff_right₀ one_lt_two).mp hle
    obtain rfl : e = 1 := by omega
    have hge : (2 : ℚ) ^ (53 : ℤ) ≤ n := he (by omega)
    have hge' : 2 ^ 53 ≤ n := by exact_mod_cast hge
    obtain rfl : n = 2 ^ 53 := by omega
    exact ⟨2 ^ 52, by norm_num⟩

/-- Integers up to `2 ^ 53` are doubles. -/
theorem exists_value_eq {n : ℤ} (h : |n| ≤ 2 ^ 53) : ∃ x : FiniteDouble, x.value = n := by
  have hbound : n.natAbs ≤ 2 ^ 53 := by
    rw [Int.abs_eq_natAbs] at h
    omega
  rcases Nat.eq_zero_or_pos n.natAbs with hzero | hpos
  · obtain rfl : n = 0 := by omega
    refine ⟨.zero false, ?_⟩
    rw [Int.cast_zero, ← abs_eq_zero, FiniteDouble.abs_value]
    exact FiniteDouble.magnitude_of_rank_eq_zero rfl
  · obtain ⟨x, hx⟩ := exists_ofInt (n := n) (by omega)
    obtain ⟨hsign, hrank⟩ := ofRatio_eq_finite.mp hx
    obtain ⟨e, s, hparts, he, -, hs, hlead, hnearest⟩ := rankOfRatio_parts hpos Nat.one_pos
    rw [Nat.cast_one, div_one] at hlead hnearest
    have hmagnitude : x.magnitude = n.natAbs := by
      -- A quotient that is whole is rounded to itself.
      obtain ⟨k, hk⟩ := exists_div_zpow hbound fun hpos => (hlead (by omega)).2
      have hself := (hnearest.le_abs_sub k).1
      rw [hk, sub_self, abs_zero, abs_nonpos_iff, sub_eq_zero, ← hk] at hself
      rw [FiniteDouble.magnitude_of_rank he hs (fun h => (hlead h).1) (hrank.trans hparts), ← hself]
      exact div_mul_cancel₀ _ (by positivity)
    exact ⟨x, by rw [FiniteDouble.value, hmagnitude, hsign, signed_natAbs]⟩

/-- An integer of at most sixty-four bits is numerically equal to the doubles nearest to it. -/
theorem numEq_ofInt_iff {n : ℤ} (h : n.natAbs ≤ 2 ^ 64) {x : FiniteDouble} :
    numEq (ofInt n) (.finite x) = true ↔ x.NearestTo n := by
  obtain ⟨y, hy⟩ := exists_ofInt h
  have hnearest := nearestTo_of_ofInt hy
  rw [hy, FiniteDouble.numEq_iff]
  refine ⟨fun hvalue => ?_, fun hx => hnearest.unique hx⟩
  exact hnearest.congr hvalue

end Double

end ApiCheck
