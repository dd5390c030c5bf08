import ApiCheck.Proofs.Number.Shortest

/-!
# The value of a double

`FiniteDouble.value x` is the number that a finite double denotes.  Values are in the order of the
places (`value_lt_iff`), so that two doubles are numerically equal exactly if they have one value
(`numEq_iff`).

`x.NearestTo v` says that no finite double lies nearer to `v` than `x`, and that the significand of
`x` is even where another one lies as near.  All doubles of which this holds have one value
(`NearestTo.unique`): two with different values would be neighbours, of which one is odd.
-/

namespace ApiCheck

namespace FiniteDouble

/-! ### Values -/

/-- The number that a finite double denotes. -/
def value (x : FiniteDouble) : ℚ := if x.negative then -x.magnitude else x.magnitude

variable {x y : FiniteDouble}

theorem magnitude_nonneg : 0 ≤ x.magnitude := by
  rw [magnitude]
  positivity

theorem abs_value : |x.value| = x.magnitude := by
  rw [value]
  split
  · rw [abs_neg, abs_of_nonneg magnitude_nonneg]
  · exact abs_of_nonneg magnitude_nonneg

theorem magnitude_congr (h : x.rank = y.rank) : x.magnitude = y.magnitude := by
  simp only [magnitude, significand, exponent, h]

theorem magnitude_of_rank_eq_zero (h : x.rank = 0) : x.magnitude = 0 := by
  simp [magnitude, significand, h]

theorem neg_neg_eq (x : FiniteDouble) : x.neg.neg = x := by
  simp [neg]

theorem value_neg (x : FiniteDouble) : x.neg.value = -x.value := by
  have hmagnitude : x.neg.magnitude = x.magnitude := magnitude_congr rfl
  rw [value, value, hmagnitude]
  cases hx : x.negative <;> simp [neg, hx]

/-- Magnitudes are in the order of their ranks. -/
theorem magnitude_lt (h : x.rank < y.rank) : x.magnitude < y.magnitude := by
  have hx := x.rank_eq
  have hy := y.rank_eq
  have hxe := x.le_exponent
  have hxs := x.significand_lt
  have hys := y.significand_lt
  obtain hexp | hexp : x.exponent = y.exponent ∨ x.exponent < y.exponent := by
    rw [exponent, exponent]
    split <;> split <;> omega
  · -- With one exponent the significands decide.
    have hlt : x.significand < y.significand := by rw [hexp] at hx; omega
    have hlt' : (x.significand : ℚ) < y.significand := by exact_mod_cast hlt
    rw [magnitude, magnitude, hexp]
    exact mul_lt_mul_of_pos_right hlt' (by positivity)
  · -- The greater exponent comes with a leading bit.
    have hlead : (2 : ℚ) ^ 52 ≤ y.significand := by
      exact_mod_cast le_significand (by omega : -1074 < y.exponent)
    have hxs' : (x.significand : ℚ) < 2 ^ 53 := by exact_mod_cast hxs
    have hpow : (2 : ℚ) * 2 ^ x.exponent ≤ 2 ^ y.exponent := by
      rw [← zpow_one_add₀ two_ne_zero]
      exact zpow_le_zpow_right₀ one_le_two (by omega)
    calc x.magnitude < 2 ^ 53 * 2 ^ x.exponent :=
          mul_lt_mul_of_pos_right hxs' (by positivity)
      _ = 2 ^ 52 * (2 * 2 ^ x.exponent) := by ring
      _ ≤ y.significand * 2 ^ y.exponent := by gcongr

theorem value_lt_of_place_lt (h : x.place < y.place) : x.value < y.value := by
  have hx := x.magnitude_nonneg
  have hy := y.magnitude_nonneg
  simp only [place] at h
  simp only [value]
  cases hxs : x.negative <;> cases hys : y.negative <;>
    simp only [hxs, hys, Bool.false_eq_true, ↓reduceIte] at h ⊢
  · exact magnitude_lt (by omega : x.rank < y.rank)
  · omega
  · -- Of a negative and a positive number one is not zero.
    obtain hrank | hrank : 0 < x.rank ∨ 0 < y.rank := by omega
    · linarith [magnitude_pos hrank]
    · linarith [magnitude_pos hrank]
  · exact neg_lt_neg (magnitude_lt (by omega : y.rank < x.rank))

theorem value_congr (h : x.place = y.place) : x.value = y.value := by
  have hzero : x.rank = 0 → x.magnitude = 0 := magnitude_of_rank_eq_zero
  have hrank : y.rank = x.rank := by
    simp only [place] at h
    split at h <;> split at h <;> omega
  simp only [place, hrank] at h
  simp only [value, magnitude_congr hrank]
  -- Numbers with different signs have one place only if both are zero.
  cases hxs : x.negative <;> cases hys : y.negative <;>
    simp only [hxs, hys, Bool.false_eq_true, ↓reduceIte] at h ⊢
  · rw [hzero (by omega), neg_zero]
  · rw [hzero (by omega), neg_zero]

/-- Values are in the order of the places. -/
theorem value_lt_iff : x.value < y.value ↔ x.place < y.place := by
  refine ⟨fun h => ?_, value_lt_of_place_lt⟩
  by_contra hge
  obtain heq | hlt : x.place = y.place ∨ y.place < x.place := by omega
  · exact absurd (value_congr heq) h.ne
  · exact absurd (value_lt_of_place_lt hlt) h.not_gt

theorem value_eq_iff : x.value = y.value ↔ x.place = y.place := by
  refine ⟨fun h => ?_, value_congr⟩
  have hxy := mt value_lt_iff.mpr h.not_lt
  have hyx := mt value_lt_iff.mpr h.not_gt
  omega

/-- Doubles are numerically equal exactly if they have one value. -/
theorem numEq_iff : Double.numEq (.finite x) (.finite y) = true ↔ x.value = y.value := by
  rw [value_eq_iff]
  exact beq_iff_eq

/-- Every place between those of two doubles is the place of one. -/
theorem exists_place {p : ℤ} (hx : x.place < p) (hy : p < y.place) :
    ∃ z : FiniteDouble, z.place = p := by
  have hxr := x.rank_lt
  have hyr := y.rank_lt
  rw [place] at hx hy
  refine ⟨⟨decide (p < 0), p.natAbs, by split at hx <;> split at hy <;> omega⟩, ?_⟩
  simp only [place, decide_eq_true_eq]
  split <;> omega

/-! ### Parts of a rank -/

/-- A rank that is put together from an exponent and a significand, which may carry. -/
theorem magnitude_of_rank {e : ℤ} {s : ℕ} (he : -1074 ≤ e) (hs : s ≤ 2 ^ 53)
    (hlead : -1074 < e → 2 ^ 52 ≤ s) (h : x.rank = (e + 1074).toNat * 2 ^ 52 + s) :
    x.magnitude = s * 2 ^ e := by
  by_cases hcarry : s = 2 ^ 53
  · have hexp : x.exponent = e + 1 := by rw [exponent, h]; split <;> omega
    have hsig : x.significand = 2 ^ 52 := by rw [significand, h]; split <;> omega
    rw [magnitude, hexp, hsig, hcarry, zpow_add_one₀ two_ne_zero]
    push_cast
    ring
  · have hexp : x.exponent = e := by rw [exponent, h]; split <;> omega
    have hsig : x.significand = s := by rw [significand, h]; split <;> omega
    rw [magnitude, hexp, hsig]

theorem significand_mod_two : x.significand % 2 = x.rank % 2 := by
  rw [significand]
  split <;> omega

/-- A number is a multiple of `2 ^ e`, or lies below all doubles with that exponent and a leading
bit. -/
def OnGrid (e : ℤ) (v : ℚ) : Prop :=
  (∃ k : ℤ, v = k * 2 ^ e) ∨ -1074 < e ∧ |v| < 2 ^ (e + 52)

theorem OnGrid.neg {e : ℤ} {v : ℚ} (h : OnGrid e v) : OnGrid e (-v) := by
  rcases h with ⟨k, rfl⟩ | ⟨he, hlt⟩
  · exact .inl ⟨-k, by push_cast; ring⟩
  · exact .inr ⟨he, by rwa [abs_neg]⟩

theorem magnitude_onGrid {e : ℤ} (he : -1074 ≤ e) : OnGrid e x.magnitude := by
  by_cases hexp : e ≤ x.exponent
  · left
    have hsplit : (2 : ℚ) ^ x.exponent = 2 ^ (x.exponent - e).toNat * 2 ^ e := by
      rw [← zpow_natCast, ← zpow_add₀ two_ne_zero]
      congr 1
      omega
    refine ⟨(x.significand * 2 ^ (x.exponent - e).toNat : ℕ), ?_⟩
    rw [magnitude, hsplit]
    push_cast
    ring
  · right
    have hlow := x.le_exponent
    have hsig : (x.significand : ℚ) < 2 ^ 53 := by exact_mod_cast significand_lt
    refine ⟨by omega, ?_⟩
    rw [abs_of_nonneg magnitude_nonneg]
    calc x.magnitude < 2 ^ 53 * 2 ^ x.exponent := mul_lt_mul_of_pos_right hsig (by positivity)
      _ = (2 : ℚ) ^ (53 + x.exponent) := by rw [zpow_add₀ two_ne_zero]; norm_cast
      _ ≤ 2 ^ (e + 52) := zpow_le_zpow_right₀ one_le_two (by omega)

/-- Every double lies on the grid of every exponent that a double can have. -/
theorem value_onGrid {e : ℤ} (he : -1074 ≤ e) : OnGrid e x.value := by
  rw [value]
  split
  · exact (magnitude_onGrid he).neg
  · exact magnitude_onGrid he

/-! ### The nearest double -/

/-- No finite double lies nearer to `v`, and the significand is even where another lies as near. -/
structure NearestTo (x : FiniteDouble) (v : ℚ) : Prop where
  closest : ∀ y : FiniteDouble, |v - x.value| ≤ |v - y.value|
  even : ∀ y : FiniteDouble, y.value ≠ x.value → |v - y.value| = |v - x.value| →
    x.significand % 2 = 0

/-- A double is nearest to its own value. -/
theorem nearestTo_value (x : FiniteDouble) : x.NearestTo x.value := by
  refine ⟨fun y => ?_, fun y hne htie => ?_⟩
  · rw [sub_self, abs_zero]
    exact abs_nonneg _
  · rw [sub_self, abs_zero, abs_eq_zero, sub_eq_zero] at htie
    exact absurd htie.symm hne

theorem NearestTo.congr {v : ℚ} (hx : x.NearestTo v) (h : x.value = y.value) :
    y.NearestTo v := by
  have hrank : x.significand % 2 = y.significand % 2 := by
    rw [significand_mod_two, significand_mod_two]
    have hplace := value_eq_iff.mp h
    simp only [place] at hplace
    split at hplace <;> split at hplace <;> omega
  refine ⟨fun z => ?_, fun z => ?_⟩
  · rw [← h]
    exact hx.closest z
  · rw [← h, ← hrank]
    exact hx.even z

/-- The double with the other sign is nearest to the opposite number. -/
theorem NearestTo.neg {v : ℚ} (h : x.NearestTo v) : x.neg.NearestTo (-v) := by
  have hdist : ∀ y : FiniteDouble, |-v - y.value| = |v - y.neg.value| := by
    intro y
    rw [value_neg, ← abs_neg]
    congr 1
    ring
  refine ⟨fun y => ?_, fun y hne htie => ?_⟩
  · rw [hdist, hdist, neg_neg_eq]
    exact h.closest y.neg
  · rw [hdist, hdist, neg_neg_eq] at htie
    refine h.even y.neg (fun hvalue => hne ?_) htie
    rw [value_neg, ← hvalue, value_neg, neg_neg]

/-- Of two doubles nearest to one number the first is not the smaller. -/
theorem NearestTo.not_lt_value {v : ℚ} (hx : x.NearestTo v) (hy : y.NearestTo v) :
    ¬ x.value < y.value := by
  intro hlt
  have hdist : |v - y.value| = |v - x.value| := le_antisymm (hy.closest x) (hx.closest y)
  -- Both lie equally far from `v`, so `v` is in the middle.
  have hmid : y.value - v = v - x.value := by
    rcases abs_eq_abs.mp hdist with h | h
    · linarith
    · linarith
  have heven := hx.even y hlt.ne' hdist
  have heven' := hy.even x hlt.ne hdist.symm
  have hplace := value_lt_iff.mp hlt
  by_cases hnext : y.place = x.place + 1
  · -- Neighbours are not both even.
    rw [significand_mod_two] at heven heven'
    rw [place, place] at hnext
    split at hnext <;> split at hnext <;> omega
  · -- A double between the two would be nearer.
    obtain ⟨z, hz⟩ := exists_place (x := x) (y := y) (p := x.place + 1) (by omega) (by omega)
    have hxz : x.value < z.value := value_lt_iff.mpr (by omega)
    have hzy : z.value < y.value := value_lt_iff.mpr (by omega)
    have hnear : |v - z.value| < |v - x.value| := by
      rw [abs_of_pos (by linarith : 0 < v - x.value), abs_lt]
      constructor <;> linarith
    exact absurd (hx.closest z) hnear.not_ge

/-- Doubles nearest to one number have one value. -/
theorem NearestTo.unique {v : ℚ} (hx : x.NearestTo v) (hy : y.NearestTo v) : x.value = y.value :=
  le_antisymm (not_lt.mp (hy.not_lt_value hx)) (not_lt.mp (hx.not_lt_value hy))

end FiniteDouble

end ApiCheck
