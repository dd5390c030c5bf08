import ApiCheck.Number.Double
import Mathlib.Algebra.Order.Field.Power
import Mathlib.Data.Int.Log
import Mathlib.Data.Rat.Floor
import Mathlib.Tactic.FieldSimp
import Mathlib.Tactic.Linarith
import Mathlib.Tactic.Positivity
import Mathlib.Tactic.Ring

/-!
# Rounding to the nearest double

Every magnitude that lies nearer to a double than half the way to its neighbours is rounded to that
double (`rankOfRatio_of_near`).  `Near x v` states the interval: half a unit of the last place on
either side, a quarter below where the doubles become denser, and the ends only for an even
significand.

Ratios are compared in `ℚ`, where a power with an integer exponent stands for the pair of natural
powers that the definitions use (`zpow_eq_div`).
-/

namespace ApiCheck

/-! ### Powers and ratios -/

theorem zpow_natCast_sub {b : ℕ} (hb : 0 < b) (k l : ℕ) :
    (b : ℚ) ^ ((k : ℤ) - l) = (b ^ k : ℕ) / (b ^ l : ℕ) := by
  have hb' : (b : ℚ) ≠ 0 := by exact_mod_cast hb.ne'
  rw [zpow_sub₀ hb', zpow_natCast, zpow_natCast]
  push_cast
  rfl

/-- A power with an integer exponent as a quotient of natural powers. -/
theorem zpow_eq_div {b : ℕ} (hb : 0 < b) (e : ℤ) :
    (b : ℚ) ^ e = (b ^ e.toNat : ℕ) / (b ^ (-e).toNat : ℕ) := by
  rw [← zpow_natCast_sub hb]
  congr 1
  omega

/-- A ratio that is scaled by a power, on whichever side the exponent puts it. -/
theorem scaled_ratio {b : ℕ} (hb : 0 < b) (num den : ℕ) (e : ℤ) :
    ((num * b ^ (-e).toNat : ℕ) : ℚ) / (den * b ^ e.toNat : ℕ) = (num : ℚ) / den / (b : ℚ) ^ e := by
  have hlow : ((b ^ (-e).toNat : ℕ) : ℚ) ≠ 0 := by positivity
  have hhigh : ((b ^ e.toNat : ℕ) : ℚ) ≠ 0 := by positivity
  rw [zpow_eq_div hb, Nat.cast_mul, Nat.cast_mul]
  field_simp

/-- The ratio of a decimal, or of a binary number. -/
theorem ratio_eq_mul_zpow {b : ℕ} (hb : 0 < b) (n : ℕ) (e : ℤ) :
    ((n * b ^ e.toNat : ℕ) : ℚ) / (b ^ (-e).toNat : ℕ) = n * (b : ℚ) ^ e := by
  rw [zpow_eq_div hb, Nat.cast_mul, mul_div_assoc]

theorem zpow_le_ratio {b : ℕ} (hb : 0 < b) {num den : ℕ} (hden : 0 < den) (e : ℤ) :
    den * b ^ e.toNat ≤ num * b ^ (-e).toNat ↔ (b : ℚ) ^ e ≤ (num : ℚ) / den := by
  have hlow : (0 : ℚ) < (b ^ (-e).toNat : ℕ) := by positivity
  have hden' : (0 : ℚ) < den := by exact_mod_cast hden
  rw [zpow_eq_div hb, div_le_div_iff₀ hlow hden', ← Nat.cast_mul, ← Nat.cast_mul, Nat.cast_le,
    Nat.mul_comm]

/-- The integer part of a logarithm that is known but for one. -/
theorem log_eq_ite {b : ℕ} (hb : 1 < b) {v : ℚ} {e : ℤ} (hlow : (b : ℚ) ^ (e - 1) ≤ v)
    (hhigh : v < (b : ℚ) ^ (e + 1)) : Int.log b v = if (b : ℚ) ^ e ≤ v then e else e - 1 := by
  have hv : 0 < v := lt_of_lt_of_le (zpow_pos (by exact_mod_cast (by omega : 0 < b)) _) hlow
  rw [Int.zpow_le_iff_le_log hb hv] at hlow
  rw [Int.lt_zpow_iff_log_lt hb hv] at hhigh
  split_ifs with hexp
  · rw [Int.zpow_le_iff_le_log hb hv] at hexp
    omega
  · rw [Int.zpow_le_iff_le_log hb hv] at hexp
    omega

/-- A ratio lies between two powers whose exponents the powers below its terms tell. -/
theorem ratio_bounds {b : ℕ} (hb : 0 < b) {num den k l : ℕ} (hnum : b ^ k ≤ num ∧ num < b ^ (k + 1))
    (hden : b ^ l ≤ den ∧ den < b ^ (l + 1)) :
    (b : ℚ) ^ ((k : ℤ) - l - 1) ≤ (num : ℚ) / den ∧
      (num : ℚ) / den < (b : ℚ) ^ ((k : ℤ) - l + 1) := by
  have hpow : (0 : ℚ) < (b ^ l : ℕ) := by exact_mod_cast Nat.pow_pos hb
  have hden' : ((b ^ l : ℕ) : ℚ) ≤ den := by exact_mod_cast hden.1
  constructor
  · rw [sub_sub, ← Nat.cast_succ, zpow_natCast_sub hb]
    exact div_le_div₀ (by positivity) (by exact_mod_cast hnum.1) (lt_of_lt_of_le hpow hden')
      (by exact_mod_cast hden.2.le)
  · rw [← add_sub_right_comm, ← Nat.cast_succ, zpow_natCast_sub hb]
    exact div_lt_div₀ (by exact_mod_cast hnum.2) hden' (by positivity) hpow

namespace Double

/-- `floorLog2` is the integer part of the binary logarithm. -/
theorem floorLog2_eq_log {num den : ℕ} (hnum : 0 < num) (hden : 0 < den) :
    floorLog2 num den = Int.log 2 ((num : ℚ) / den) := by
  have hbounds : ∀ {n : ℕ}, 0 < n → 2 ^ n.log2 ≤ n ∧ n < 2 ^ (n.log2 + 1) := fun hn =>
    ⟨Nat.log2_self_le hn.ne', Nat.lt_log2_self⟩
  obtain ⟨hlow, hhigh⟩ := ratio_bounds (b := 2) (by decide) (hbounds hnum) (hbounds hden)
  rw [log_eq_ite (by decide) hlow hhigh]
  exact if_congr (zpow_le_ratio (by decide) hden _) rfl rfl

/-- `k` is the whole number next to `t`, and the even one of two. -/
structure Nearest (t : ℚ) (k : ℕ) : Prop where
  low : (k : ℚ) - 1 / 2 ≤ t
  high : t ≤ k + 1 / 2
  odd : k % 2 = 1 → (k : ℚ) - 1 / 2 < t ∧ t < k + 1 / 2

theorem roundQuotient_of_nearest {num den k : ℕ} (hden : 0 < den)
    (h : Nearest ((num : ℚ) / den) k) : roundQuotient num den = k := by
  obtain ⟨hlow, hhigh, hodd⟩ := h
  have hden' : (0 : ℚ) < den := by exact_mod_cast hden
  rw [le_div_iff₀ hden'] at hlow
  rw [div_le_iff₀ hden'] at hhigh
  rw [lt_div_iff₀ hden', div_lt_iff₀ hden'] at hodd
  have hdivMod : (num : ℚ) = den * (num / den : ℕ) + (num % den : ℕ) := by
    exact_mod_cast (Nat.div_add_mod num den).symm
  have hmod : num % den < den := Nat.mod_lt num hden
  simp only [roundQuotient]
  generalize num % den = r at *
  generalize num / den = q at *
  have hmod' : (r : ℚ) < den := by exact_mod_cast hmod
  have hq : q < k + 1 := by
    have hprod : (den * q : ℚ) < den * (k + 1) := by linarith
    exact_mod_cast lt_of_mul_lt_mul_left hprod hden'.le
  have hk : k < q + 2 := by
    have hprod : (den * k : ℚ) < den * (q + 2) := by linarith
    exact_mod_cast lt_of_mul_lt_mul_left hprod hden'.le
  obtain rfl | rfl : k = q ∨ k = q + 1 := by omega
  · -- The quotient is rounded down, a tie only if it is even.
    have hhalf : 2 * r ≤ den := by
      have hhalf' : (2 * r : ℚ) ≤ den := by linarith
      exact_mod_cast hhalf'
    have heven : 2 * r = den → k % 2 = 0 := by
      intro htie
      have htie' : (2 * r : ℚ) = den := by exact_mod_cast htie
      by_contra hk
      linarith [(hodd (by omega)).2]
    rw [if_neg]
    simp only [Bool.or_eq_true, Bool.and_eq_true, decide_eq_true_eq, beq_iff_eq]
    omega
  · -- The quotient is rounded up, a tie only if it is odd.
    push_cast at hlow hhigh hodd
    have hhalf : den ≤ 2 * r := by
      have hhalf' : (den : ℚ) ≤ 2 * r := by linarith
      exact_mod_cast hhalf'
    have heven : 2 * r = den → q % 2 = 1 := by
      intro htie
      have htie' : (2 * r : ℚ) = den := by exact_mod_cast htie
      by_contra hk
      linarith [(hodd (by omega)).1]
    rw [if_pos]
    simp only [Bool.or_eq_true, Bool.and_eq_true, decide_eq_true_eq, beq_iff_eq]
    omega

/-- The quotient of two terms, of which one is scaled, is rounded like the scaled ratio. -/
theorem roundQuotient_scaled {num den k : ℕ} {e : ℤ} (hden : 0 < den)
    (h : Nearest ((num : ℚ) / den / 2 ^ e) k) :
    roundQuotient (num * 2 ^ (-e).toNat) (den * 2 ^ e.toNat) = k := by
  refine roundQuotient_of_nearest (Nat.mul_pos hden (Nat.two_pow_pos _)) ?_
  have hscaled := scaled_ratio (b := 2) two_pos num den e
  rw [Nat.cast_ofNat] at hscaled
  rwa [hscaled]

end Double

/-! ### Significand and exponent -/

namespace FiniteDouble

variable {x : FiniteDouble}

theorem significand_lt : x.significand < 2 ^ 53 := by
  rw [significand]
  split <;> omega

theorem significand_pos (h : 0 < x.rank) : 0 < x.significand := by
  rw [significand]
  split <;> omega

theorem le_exponent : -1074 ≤ x.exponent := by
  rw [exponent]
  split <;> omega

theorem exponent_le : x.exponent ≤ 971 := by
  have hrank := x.rank_lt
  rw [exponent]
  split <;> omega

/-- Above the smallest exponent the leading bit of the significand is set. -/
theorem le_significand (h : -1074 < x.exponent) : 2 ^ 52 ≤ x.significand := by
  rw [exponent] at h
  rw [significand]
  split <;> omega

theorem rank_eq : (x.exponent + 1074).toNat * 2 ^ 52 + x.significand = x.rank := by
  rw [exponent, significand]
  split <;> omega

/-! ### The interval of a double -/

/-- `v` rounds to the magnitude of `x`.  Below a power of two the doubles are twice as dense. -/
structure Near (x : FiniteDouble) (v : ℚ) : Prop
    extends Double.Nearest (v / 2 ^ x.exponent) x.significand where
  dense : x.significand = 2 ^ 52 → (x.significand : ℚ) - 1 / 4 ≤ v / 2 ^ x.exponent

namespace Near

variable {v : ℚ}

theorem lt_zpow (h : x.Near v) : v < 2 ^ (x.exponent + 53) := by
  have hpow : (0 : ℚ) < 2 ^ x.exponent := by positivity
  have hhigh := (div_le_iff₀ hpow).mp h.high
  have hsignificand : (x.significand : ℚ) + 1 ≤ 2 ^ 53 := by exact_mod_cast significand_lt
  rw [zpow_add₀ two_ne_zero, mul_comm]
  nlinarith

theorem zpow_le (h : x.Near v) (hx : 0 < x.rank) : (2 : ℚ) ^ (x.exponent - 1) ≤ v := by
  have hpow : (0 : ℚ) < 2 ^ x.exponent := by positivity
  have hlow := (le_div_iff₀ hpow).mp h.low
  have hsignificand : (1 : ℚ) ≤ x.significand := by exact_mod_cast significand_pos hx
  rw [zpow_sub₀ two_ne_zero, zpow_one]
  nlinarith

theorem pos (h : x.Near v) (hx : 0 < x.rank) : 0 < v :=
  lt_of_lt_of_le (by positivity) (h.zpow_le hx)

/-- Below the smallest double with its exponent, the significand that the smaller exponent gives is
rounded up to the next power of two. -/
theorem carry (h : x.Near v) (hsignificand : x.significand = 2 ^ 52)
    (hbelow : v < 2 ^ (x.exponent + 52)) : Double.Nearest (v / 2 ^ (x.exponent - 1)) (2 ^ 53) := by
  have hdense := h.dense hsignificand
  have hhigh : v / 2 ^ x.exponent < 2 ^ 52 := by
    rw [zpow_add₀ two_ne_zero] at hbelow
    rw [div_lt_iff₀ (by positivity), mul_comm]
    exact_mod_cast hbelow
  have hunits : v / 2 ^ (x.exponent - 1) = 2 * (v / 2 ^ x.exponent) := by
    rw [zpow_sub₀ two_ne_zero, zpow_one]
    field_simp
  rw [hsignificand] at hdense
  push_cast at hdense
  refine ⟨?_, ?_, fun hodd => absurd hodd (by decide)⟩
  · rw [hunits]
    push_cast
    linarith
  · rw [hunits]
    push_cast
    linarith

end Near

/-- The exponent that rounding takes is the one of the double, or one less where the double is the
smallest with its exponent and the number lies below it. -/
theorem exponent_of_near {v : ℚ} (hx : 0 < x.rank) (h : x.Near v) :
    max (Int.log 2 v - 52) (-1074) = x.exponent ∨
      max (Int.log 2 v - 52) (-1074) = x.exponent - 1 ∧ -1074 < x.exponent ∧
        x.significand = 2 ^ 52 ∧ v < 2 ^ (x.exponent + 52) := by
  have hv := h.pos hx
  have hle : ∀ e : ℤ, (2 : ℚ) ^ e ≤ v ↔ e ≤ Int.log 2 v := fun e => by
    exact_mod_cast Int.zpow_le_iff_le_log (x := e) one_lt_two hv
  have hlt : ∀ e : ℤ, v < (2 : ℚ) ^ e ↔ Int.log 2 v < e := fun e => by
    exact_mod_cast Int.lt_zpow_iff_log_lt (x := e) one_lt_two hv
  have hhigh := (hlt _).mp h.lt_zpow
  have hexp := x.le_exponent
  by_cases hmin : x.exponent = -1074
  · -- Rounding takes no smaller exponent than this one.
    left
    omega
  · by_cases htop : (2 : ℚ) ^ (x.exponent + 52) ≤ v
    · rw [hle] at htop
      left
      omega
    · -- Only where the doubles become denser does the interval reach below the exponent.
      have hbelow := not_le.mp htop
      have hpow : (0 : ℚ) < 2 ^ x.exponent := by positivity
      have hsplit : (2 : ℚ) ^ (x.exponent + 52) = 2 ^ 52 * 2 ^ x.exponent := by
        rw [zpow_add₀ two_ne_zero, mul_comm]
        norm_cast
      have hunits : v / 2 ^ x.exponent < 2 ^ 52 := (div_lt_iff₀ hpow).mpr (hsplit ▸ hbelow)
      have hsignificand : x.significand = 2 ^ 52 := by
        refine le_antisymm ?_ (le_significand (by omega))
        have hlow := lt_of_le_of_lt h.low hunits
        have hlow' : (x.significand : ℚ) < (2 ^ 52 + 1 : ℕ) := by push_cast; linarith
        exact Nat.lt_succ_iff.mp (by exact_mod_cast hlow')
      have hhalf : (2 : ℚ) ^ (x.exponent + 51) ≤ v := by
        have hdense := (le_div_iff₀ hpow).mp (h.dense hsignificand)
        rw [hsignificand] at hdense
        rw [zpow_add₀ two_ne_zero]
        refine le_trans ?_ hdense
        rw [mul_comm]
        exact mul_le_mul_of_nonneg_right (by norm_num) hpow.le
      rw [hle] at hhalf
      rw [hlt] at hbelow
      exact .inr ⟨by omega, by omega, hsignificand, by rwa [hlt]⟩

end FiniteDouble

namespace Double

/-- A ratio in the interval of a double is rounded to it. -/
theorem rankOfRatio_of_near {x : FiniteDouble} (hx : 0 < x.rank) {num den : ℕ} (hden : 0 < den)
    (h : x.Near ((num : ℚ) / den)) : rankOfRatio num den = x.rank := by
  have hden' : (0 : ℚ) < den := by exact_mod_cast hden
  have hnum : 0 < num := by
    have hnum' := (div_pos_iff_of_pos_right hden').mp (h.pos hx)
    exact_mod_cast hnum'
  have hrank := x.rank_eq
  have hexp := x.le_exponent
  simp only [rankOfRatio, if_neg hnum.ne', floorLog2_eq_log hnum hden]
  obtain he | ⟨he, hmin, hsignificand, hbelow⟩ := FiniteDouble.exponent_of_near hx h
  · rw [he, roundQuotient_scaled hden h.toNearest, hrank]
  · -- The carry of the significand makes up for the exponent.
    have hcarried : (x.exponent - 1 + 1074).toNat * 2 ^ 52 + 2 ^ 53 = x.rank := by
      have htoNat : (x.exponent + 1074).toNat = (x.exponent - 1 + 1074).toNat + 1 := by omega
      rw [← hrank, hsignificand, htoNat]
      ring
    rw [he, roundQuotient_scaled hden (h.carry hsignificand hbelow), hcarried]

end Double

end ApiCheck
