import ApiCheck.Number.Shortest
import ApiCheck.Proofs.Number.Reading
import ApiCheck.Proofs.Number.Rounding
import Mathlib.Algebra.Order.Floor.Semifield
import Mathlib.Tactic.GCongr

/-!
# The text of a double

The text of a finite double reads as the double (`readDouble_chars`).  The digits that are written
lie in the interval of the double (`near_shortest`): they are looked for among the decimals with one
digit, two digits and so on, and a decimal with seventeen digits always lies there
(`candidate_ne_none`).
-/

namespace ApiCheck

namespace FiniteDouble

variable {x : FiniteDouble}

/-! ### The magnitude -/

/-- The magnitude of a finite double. -/
def magnitude (x : FiniteDouble) : ℚ := x.significand * 2 ^ x.exponent

theorem magnitude_pos (hx : 0 < x.rank) : 0 < x.magnitude := by
  have hsignificand : (0 : ℚ) < x.significand := by exact_mod_cast significand_pos hx
  rw [magnitude]
  positivity

theorem ratio_snd_pos : 0 < x.ratio.2 :=
  Nat.two_pow_pos _

theorem ratio_fst_pos (hx : 0 < x.rank) : 0 < x.ratio.1 :=
  Nat.mul_pos (significand_pos hx) (Nat.two_pow_pos _)

theorem ratio_div : (x.ratio.1 : ℚ) / x.ratio.2 = x.magnitude := by
  have hratio := ratio_eq_mul_zpow two_pos x.significand x.exponent
  rw [Nat.cast_ofNat] at hratio
  exact hratio

/-- A number that agrees with a double in sixteen digits rounds to it. -/
theorem near_of_close {v : ℚ} (h : |v - x.magnitude| ≤ x.magnitude / (2 * 10 ^ 16)) :
    x.Near v := by
  have hpow : (0 : ℚ) < 2 ^ x.exponent := by positivity
  have hunits : |v / 2 ^ x.exponent - x.significand| ≤ x.significand / (2 * 10 ^ 16) := by
    have hdist : v / 2 ^ x.exponent - x.significand = (v - x.magnitude) / 2 ^ x.exponent := by
      rw [magnitude]
      field_simp
    rw [hdist, abs_div, abs_of_pos hpow, div_le_iff₀ hpow]
    rwa [magnitude, mul_div_right_comm] at h
  have hsignificand : (x.significand : ℚ) < 2 ^ 53 := by exact_mod_cast significand_lt
  obtain ⟨hlow, hhigh⟩ := abs_le.mp hunits
  refine ⟨⟨by linarith, by linarith, fun _ => ⟨by linarith, by linarith⟩⟩, fun hdense => ?_⟩
  rw [hdense] at hlow ⊢
  push_cast at hlow ⊢
  linarith

/-! ### The search -/

/-- The interval of a double in quarters of its spacing. -/
theorem near_iff_quarters (hx : 0 < x.rank) {v : ℚ} :
    x.Near v ↔ x.quarters.1 ≤ 4 * (v / 2 ^ x.exponent) ∧ 4 * (v / 2 ^ x.exponent) ≤ x.quarters.2 ∧
      (x.significand % 2 = 1 → x.quarters.1 < 4 * (v / 2 ^ x.exponent) ∧
        4 * (v / 2 ^ x.exponent) < x.quarters.2) := by
  have hm := significand_pos hx
  have hlower : (x.quarters.1 : ℚ) =
      4 * x.significand - if x.significand = 2 ^ 52 then 1 else 2 := by
    rw [quarters]
    split <;> rw [Nat.cast_sub (by omega)] <;> push_cast <;> rfl
  have hupper : (x.quarters.2 : ℚ) = 4 * x.significand + 2 := by
    rw [quarters]
    push_cast
    rfl
  have hsparse : x.significand % 2 = 1 → x.significand ≠ 2 ^ 52 := by omega
  rw [hlower, hupper]
  constructor
  · intro h
    refine ⟨?_, by linarith [h.high], fun hodd => ?_⟩
    · split
      · next hdense => linarith [h.dense hdense]
      · linarith [h.low]
    · rw [if_neg (hsparse hodd)]
      obtain ⟨hlow, hhigh⟩ := h.odd hodd
      exact ⟨by linarith, by linarith⟩
  · rintro ⟨hlow, hhigh, hodd⟩
    refine ⟨⟨?_, by linarith, fun h => ?_⟩, fun hdense => ?_⟩
    · split at hlow <;> linarith
    · rw [if_neg (hsparse h)] at hodd
      obtain ⟨hlow, hhigh⟩ := hodd h
      exact ⟨by linarith, by linarith⟩
    · rw [if_pos hdense] at hlow
      linarith

/-- A decimal over the spacing of a double, as the quotient that `covers` compares. -/
theorem decimal_div_scale (digits : ℕ) (exponent : ℤ) :
    ((digits * 10 ^ exponent.toNat * 2 ^ (-(x.exponent - 2)).toNat : ℕ) : ℚ) /
      (10 ^ (-exponent).toNat * 2 ^ (x.exponent - 2).toNat : ℕ) =
        4 * (digits * 10 ^ exponent / 2 ^ x.exponent) := by
  have hscaled := scaled_ratio two_pos (digits * 10 ^ exponent.toNat) (10 ^ (-exponent).toNat)
    (x.exponent - 2)
  have hratio := ratio_eq_mul_zpow (b := 10) (by decide) digits exponent
  rw [Nat.cast_ofNat] at hscaled hratio
  rw [hscaled, hratio, zpow_sub₀ two_ne_zero]
  field_simp
  norm_num

theorem covers_iff (hx : 0 < x.rank) {digits : ℕ} {exponent : ℤ} :
    x.covers digits exponent = true ↔ x.Near (digits * 10 ^ exponent) := by
  have hscale : (0 : ℚ) < (10 ^ (-exponent).toNat * 2 ^ (x.exponent - 2).toNat : ℕ) := by positivity
  rw [near_iff_quarters hx, ← decimal_div_scale]
  simp only [covers, le_div_iff₀ hscale, div_le_iff₀ hscale, lt_div_iff₀ hscale,
    div_lt_iff₀ hscale, ← Nat.cast_mul, Nat.cast_le, Nat.cast_lt]
  by_cases hodd : x.significand % 2 = 1
  · rw [if_neg (by simp [hodd]), Bool.and_eq_true, decide_eq_true_eq, decide_eq_true_eq]
    exact ⟨fun h => ⟨h.1.le, h.2.le, fun _ => h⟩, fun h => h.2.2 hodd⟩
  · rw [if_pos (by simp; omega), Bool.and_eq_true, decide_eq_true_eq, decide_eq_true_eq]
    exact ⟨fun h => ⟨h.1, h.2, fun h => absurd h hodd⟩, fun h => ⟨h.1, h.2.1⟩⟩

theorem covers_of_candidate {exponent : ℤ} {digits : ℕ} (h : x.candidate exponent = some digits) :
    x.covers digits exponent = true := by
  simp only [candidate] at h
  split at h
  · split at h <;> simp_all
  · simp_all
  · simp_all
  · exact nomatch h

/-- On a grid that is fine enough the decimal next to a double rounds to it. -/
theorem covers_of_fine {digits : ℕ} {exponent : ℤ} (hx : 0 < x.rank)
    (hfine : (10 : ℚ) ^ exponent ≤ x.magnitude / 10 ^ 16)
    (h : |(digits : ℚ) - x.magnitude / 10 ^ exponent| ≤ 1 / 2) :
    x.covers digits exponent = true := by
  have hgrid : (0 : ℚ) < 10 ^ exponent := by positivity
  have hdist : (digits : ℚ) * 10 ^ exponent - x.magnitude =
      (digits - x.magnitude / 10 ^ exponent) * 10 ^ exponent := by
    field_simp
  refine (covers_iff hx).mpr (near_of_close ?_)
  calc |(digits : ℚ) * 10 ^ exponent - x.magnitude|
      = |digits - x.magnitude / 10 ^ exponent| * 10 ^ exponent := by
        rw [hdist, abs_mul, abs_of_pos hgrid]
    _ ≤ 1 / 2 * (x.magnitude / 10 ^ 16) := by gcongr
    _ = x.magnitude / (2 * 10 ^ 16) := by ring

theorem candidate_ne_none {exponent : ℤ} (hx : 0 < x.rank)
    (hfine : (10 : ℚ) ^ exponent ≤ x.magnitude / 10 ^ 16) : x.candidate exponent ≠ none := by
  have hscaled := scaled_ratio (b := 10) (by decide) x.ratio.1 x.ratio.2 exponent
  rw [ratio_div, Nat.cast_ofNat] at hscaled
  simp only [candidate]
  generalize x.ratio.1 * 10 ^ (-exponent).toNat = num at *
  generalize x.ratio.2 * 10 ^ exponent.toNat = den at *
  have hlow : ((num / den : ℕ) : ℚ) ≤ x.magnitude / 10 ^ exponent := by
    rw [← hscaled, ← Nat.floor_div_eq_div (K := ℚ)]
    exact Nat.floor_le (by positivity)
  have hhigh : x.magnitude / 10 ^ exponent < (num / den : ℕ) + 1 := by
    rw [← hscaled, ← Nat.floor_div_eq_div (K := ℚ)]
    exact Nat.lt_floor_add_one _
  -- One of the two neighbours is at most half a step away.
  have hcovers : x.covers (num / den) exponent = true ∨ x.covers (num / den + 1) exponent = true := by
    by_cases hhalf : x.magnitude / 10 ^ exponent ≤ (num / den : ℕ) + 1 / 2
    · exact .inl (covers_of_fine hx hfine (abs_le.mpr ⟨by linarith, by linarith⟩))
    · refine .inr (covers_of_fine hx hfine (abs_le.mpr ?_))
      push_cast
      exact ⟨by linarith, by linarith⟩
  split
  · exact Option.some_ne_none _
  · exact Option.some_ne_none _
  · exact Option.some_ne_none _
  · next hbelow habove =>
    rw [hbelow, habove] at hcovers
    simp at hcovers

theorem covers_of_search {magnitude : ℤ} {tries count digits : ℕ} {exponent : ℤ}
    (h : x.search magnitude tries count = some (digits, exponent)) :
    x.covers digits exponent = true := by
  induction tries generalizing count with
  | zero => exact nomatch h
  | succ tries ih =>
    simp only [search] at h
    split at h
    · next digits' hcandidate =>
      cases h
      exact covers_of_candidate hcandidate
    · exact ih h

theorem search_ne_none {magnitude : ℤ} {tries count skipped : ℕ} (hskipped : skipped < tries)
    (h : x.candidate (magnitude - (count + skipped : ℕ)) ≠ none) :
    x.search magnitude tries count ≠ none := by
  induction tries generalizing count skipped with
  | zero => exact absurd hskipped (Nat.not_lt_zero skipped)
  | succ tries ih =>
    simp only [search]
    split
    · exact Option.some_ne_none _
    · next hnone =>
      cases skipped with
      | zero => exact absurd hnone h
      | succ skipped =>
        refine ih (Nat.lt_of_succ_lt_succ hskipped) ?_
        rwa [Nat.succ_add_eq_add_succ]

/-! ### The digits -/

theorem length_toDigits_bounds {n : ℕ} (hn : 0 < n) :
    10 ^ ((Nat.toDigits 10 n).length - 1) ≤ n ∧ n < 10 ^ ((Nat.toDigits 10 n).length - 1 + 1) := by
  have hlength : 0 < (Nat.toDigits 10 n).length := Nat.length_toDigits_pos
  constructor
  · by_cases hone : (Nat.toDigits 10 n).length - 1 = 0
    · rw [hone]
      exact hn
    · rw [← not_lt, ← Nat.length_toDigits_le_iff (by decide) (by omega)]
      omega
  · rw [Nat.sub_add_cancel hlength, ← Nat.length_toDigits_le_iff (by decide) hlength]

/-- `magnitudeOfRatio` is one more than the integer part of the decimal logarithm. -/
theorem magnitudeOfRatio_eq_log {num den : ℕ} (hnum : 0 < num) (hden : 0 < den) :
    magnitudeOfRatio num den = Int.log 10 ((num : ℚ) / den) + 1 := by
  obtain ⟨hlow, hhigh⟩ := ratio_bounds (b := 10) (by decide) (length_toDigits_bounds hnum)
    (length_toDigits_bounds hden)
  have hexponent : (((Nat.toDigits 10 num).length - 1 : ℕ) : ℤ) - ((Nat.toDigits 10 den).length - 1 : ℕ) =
      ((Nat.toDigits 10 num).length : ℤ) - ((Nat.toDigits 10 den).length : ℤ) := by
    have hnum' : 0 < (Nat.toDigits 10 num).length := Nat.length_toDigits_pos
    have hden' : 0 < (Nat.toDigits 10 den).length := Nat.length_toDigits_pos
    omega
  rw [hexponent] at hlow hhigh
  rw [log_eq_ite (by decide) hlow hhigh]
  simp only [magnitudeOfRatio, zpow_le_ratio (b := 10) (by decide) hden]
  split <;> omega

theorem stripZeros_value (tries digits : ℕ) (exponent : ℤ) :
    ((stripZeros tries digits exponent).1 : ℚ) * 10 ^ (stripZeros tries digits exponent).2 =
      digits * 10 ^ exponent := by
  induction tries generalizing digits exponent with
  | zero => rfl
  | succ tries ih =>
    rw [stripZeros]
    split
    · next hzero =>
      simp only [Bool.and_eq_true, beq_iff_eq] at hzero
      have hdigits : (digits : ℚ) = (digits / 10 : ℕ) * 10 := by
        exact_mod_cast (Nat.div_mul_cancel (Nat.dvd_of_mod_eq_zero hzero.1)).symm
      rw [ih, hdigits, zpow_add_one₀ (by norm_num)]
      ring
    · rfl

theorem search_magnitude_ne_none (hx : 0 < x.rank) :
    x.search (magnitudeOfRatio x.ratio.1 x.ratio.2) 17 1 ≠ none := by
  have hlog : (10 : ℚ) ^ Int.log 10 x.magnitude ≤ x.magnitude := by
    exact_mod_cast Int.zpow_log_le_self (b := 10) (by decide) (magnitude_pos hx)
  rw [magnitudeOfRatio_eq_log (ratio_fst_pos hx) ratio_snd_pos, ratio_div]
  refine search_ne_none (by decide : 16 < 17) (candidate_ne_none hx ?_)
  have hexponent : Int.log 10 x.magnitude + 1 - (1 + 16 : ℕ) = Int.log 10 x.magnitude - 16 := by
    push_cast
    ring
  rw [hexponent, zpow_sub₀ (by norm_num)]
  exact div_le_div_of_nonneg_right hlog (by positivity)

/-- The digits that a double is written with round to it. -/
theorem near_shortest (hx : 0 < x.rank) : x.Near (x.shortest.1 * 10 ^ x.shortest.2) := by
  have hzero : x.isZero = false := by simpa [isZero] using hx.ne'
  obtain ⟨⟨digits, exponent⟩, hsearch⟩ := Option.ne_none_iff_exists'.mp (search_magnitude_ne_none hx)
  simp only [shortest, hzero, Bool.false_eq_true, if_false, hsearch, stripZeros_value]
  exact (covers_iff hx).mp (covers_of_search hsearch)

/-! ### Reading the text -/

theorem cast_pow_le {a b k l : ℕ} (h : a ^ k ≤ b ^ l) : (a : ℚ) ^ k ≤ (b : ℚ) ^ l := by
  exact_mod_cast h

/-- The finite doubles lie between powers of ten. -/
theorem Near.decimal_bounds {v : ℚ} (h : x.Near v) (hx : 0 < x.rank) :
    (10 : ℚ) ^ (-324 : ℤ) ≤ v ∧ v < 10 ^ (309 : ℤ) := by
  have hsmall : (2 : ℚ) ^ 1075 ≤ 10 ^ 324 := cast_pow_le (a := 2) (b := 10) (by decide +kernel)
  have hgreat : (2 : ℚ) ^ 1024 ≤ 10 ^ 309 := cast_pow_le (a := 2) (b := 10) (by decide +kernel)
  have hexponent := x.le_exponent
  have hexponent' := x.exponent_le
  constructor
  · calc (10 : ℚ) ^ (-324 : ℤ) ≤ 2 ^ (-1075 : ℤ) := by
          rw [zpow_neg, zpow_neg, zpow_ofNat, zpow_ofNat]
          exact inv_anti₀ (pow_pos two_pos _) hsmall
      _ ≤ 2 ^ (x.exponent - 1) := zpow_le_zpow_right₀ one_le_two (by omega)
      _ ≤ v := h.zpow_le hx
  · calc v < 2 ^ (x.exponent + 53) := h.lt_zpow
      _ ≤ 2 ^ (1024 : ℤ) := zpow_le_zpow_right₀ one_le_two (by omega)
      _ ≤ 10 ^ (309 : ℤ) := by
          rw [zpow_ofNat, zpow_ofNat]
          exact hgreat

/-- A decimal lies between the powers of ten that the number of its digits tells. -/
theorem decimal_bounds {digits : ℕ} (hdigits : 0 < digits) (exponent : ℤ) :
    (10 : ℚ) ^ ((Nat.toDigits 10 digits).length + exponent - 1) ≤ digits * 10 ^ exponent ∧
      digits * (10 : ℚ) ^ exponent < 10 ^ ((Nat.toDigits 10 digits).length + exponent) := by
  have hpow : (0 : ℚ) < 10 ^ exponent := by positivity
  have hlength : 0 < (Nat.toDigits 10 digits).length := Nat.length_toDigits_pos
  obtain ⟨hlow, hhigh⟩ := length_toDigits_bounds hdigits
  rw [Nat.sub_add_cancel hlength] at hhigh
  have hexponent : ((Nat.toDigits 10 digits).length + exponent - 1 : ℤ) =
      ((Nat.toDigits 10 digits).length - 1 : ℕ) + exponent := by omega
  rw [hexponent, zpow_add₀ (by norm_num), zpow_add₀ (by norm_num), zpow_natCast, zpow_natCast]
  exact ⟨mul_le_mul_of_nonneg_right (by exact_mod_cast hlow) hpow.le,
    mul_lt_mul_of_pos_right (by exact_mod_cast hhigh) hpow⟩

/-- A decimal that rounds to a double is neither too great nor too small to be formed. -/
theorem ofDecimal_of_near {digits : ℕ} {exponent : ℤ} (hx : 0 < x.rank) (negative : Bool)
    (h : x.Near (digits * 10 ^ exponent)) :
    Double.ofDecimal negative digits exponent = .finite ⟨negative, x.rank, x.rank_lt⟩ := by
  have hdigits : 0 < digits := by
    have hdigits' := pos_of_mul_pos_left (h.pos hx) (zpow_nonneg (by norm_num) exponent)
    exact_mod_cast hdigits'
  obtain ⟨hlow, hhigh⟩ := decimal_bounds hdigits exponent
  obtain ⟨hsmall, hgreat⟩ := h.decimal_bounds hx
  have hbelow := lt_of_le_of_lt hlow hgreat
  have habove := lt_of_le_of_lt hsmall hhigh
  rw [zpow_lt_zpow_iff_right₀ (by norm_num)] at hbelow habove
  have hratio := ratio_eq_mul_zpow (b := 10) (by decide) digits exponent
  rw [Nat.cast_ofNat] at hratio
  have hrank := Double.rankOfRatio_of_near hx (Nat.pow_pos (by decide)) (hratio.symm ▸ h)
  simp only [Double.ofDecimal]
  rw [if_neg hdigits.ne', if_neg (by omega), if_neg (by omega), Double.ofRatio, hrank, Double.ofRank,
    dif_pos x.rank_lt]

/-- The positional notation of a decimal denotes the decimal. -/
theorem exists_positional (digits : ℕ) (exponent : ℤ) :
    ∃ d e, Positional (positional digits exponent) d e ∧
      (d : ℚ) * 10 ^ e = digits * 10 ^ exponent := by
  have hall : ∀ c ∈ Nat.toDigits 10 digits, c.isDigit = true := isDigit_of_mem_toDigits
  have hvalue : Nat.ofDigitChars 10 (Nat.toDigits 10 digits) 0 = digits :=
    Nat.ofDigitChars_ten_toDigits
  have hzeros : ∀ n, ∀ c ∈ List.replicate n '0', c.isDigit = true := fun n c hc => by
    rw [List.eq_of_mem_replicate hc]
    rfl
  have hne : Nat.toDigits 10 digits ≠ [] := Nat.toDigits_ne_nil
  simp only [positional]
  generalize Nat.toDigits 10 digits = ds at *
  split
  · next hexponent =>
    refine ⟨_, _, .whole (by simp [hne]) (List.forall_mem_append.mpr ⟨hall, hzeros _⟩), ?_⟩
    obtain ⟨n, rfl⟩ := Int.eq_ofNat_of_zero_le hexponent
    rw [Nat.ofDigitChars_append, hvalue, Nat.ofDigitChars_replicate_zero]
    simp [mul_comm]
  · next hexponent =>
    split
    · next hplaces =>
      refine ⟨_, _, .point ?_ ?_, ?_⟩
      · exact List.ne_nil_of_length_pos (by rw [List.length_drop]; omega)
      · rwa [List.take_append_drop]
      · rw [List.take_append_drop, hvalue, List.length_drop]
        congr 2
        omega
    · next hplaces =>
      have hdigits : ∀ c ∈ ['0'] ++ (List.replicate ((-exponent).toNat - ds.length) '0' ++ ds),
          c.isDigit = true :=
        List.forall_mem_append.mpr ⟨List.forall_mem_singleton.mpr rfl,
          List.forall_mem_append.mpr ⟨hzeros _, hall⟩⟩
      refine ⟨_, _, .point (by simp [hne]) hdigits, ?_⟩
      have hzero : Nat.ofDigitChars 10 ['0'] 0 = 0 := rfl
      rw [Nat.ofDigitChars_append, Nat.ofDigitChars_append, Nat.ofDigitChars_replicate_zero, hzero,
        Nat.mul_zero, hvalue, List.length_append, List.length_replicate]
      congr 2
      omega

/-- The text of a double is a decimal with its sign in front, and rounds to it. -/
theorem exists_signed (x : FiniteDouble) :
    ∃ digits exponent, Signed x.chars x.negative digits exponent ∧
      Double.ofDecimal x.negative digits exponent = .finite x := by
  by_cases hx : 0 < x.rank
  · obtain ⟨digits, exponent, hbody, hvalue⟩ := exists_positional x.shortest.1 x.shortest.2
    have hnear := near_shortest hx
    have hdigits : x.shortest.1 ≠ 0 := by
      intro hzero
      have hpos := hnear.pos hx
      simp [hzero] at hpos
    refine ⟨digits, exponent, ?_, ofDecimal_of_near hx _ (hvalue ▸ hnear)⟩
    simp only [chars, if_neg hdigits]
    cases x.negative with
    | true => exact .minus hbody
    | false => exact .plain hbody
  · obtain ⟨negative, rank, hlt⟩ := x
    obtain rfl : rank = 0 := by simpa using hx
    have hzero : Positional ['0'] 0 0 := .whole (by simp) (List.forall_mem_singleton.mpr rfl)
    refine ⟨0, 0, ?_, rfl⟩
    cases negative with
    | true => exact .minus hzero
    | false => exact .plain hzero

/-- **The text of a finite double reads as the double.** -/
theorem readDouble_chars (x : FiniteDouble) : readDouble x.chars = some (.finite x) := by
  obtain ⟨digits, exponent, hsigned, hvalue⟩ := x.exists_signed
  rw [hsigned.readDouble_eq, hvalue]

end FiniteDouble

end ApiCheck
