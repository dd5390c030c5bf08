import ApiCheck.Proofs.Number.Nearest
import ApiCheck.Proofs.Operand

/-!
# The laws of strict equality

Strict equality is reflexive on all but arrays and objects, symmetric, and holds only between operands
of one kind.  Integers are compared with each other exactly, but with a double only after they are
rounded to one.  So numbers of one value are always equal, and an integer that is no double
(`Number.Exact`) also equals the double that is nearest to it (`Number.strictEq_iff`).  This is why
strict equality is not transitive: two integers may be rounded to one double, which equals both
(`Operand.Bridged`).  Integers up to `2 ^ 53` are doubles.

`Operand.strictEq_laws` states all of it.
-/

namespace ApiCheck

/-! ### Doubles -/

namespace Double

theorem numEq_comm (x y : Double) : numEq x y = numEq y x := by
  cases x <;> cases y <;> simp only [numEq]
  · exact Bool.beq_comm
  · exact Bool.beq_comm

theorem numEq_trans {x y z : Double} (hxy : numEq x y = true) (hyz : numEq y z = true) :
    numEq x z = true := by
  cases x <;> cases y <;> cases z <;> simp_all [numEq]

theorem numEq_ofInt_self (i : ℤ) : numEq (ofInt i) (ofInt i) = true := by
  simp only [ofInt, ofRatio, ofRank]
  split
  · exact beq_self_eq_true _
  · exact beq_self_eq_true _

end Double

namespace Number

/-! ### Values -/

/-- The number that is denoted, by an integer or by a double. -/
def value : Number → ℚ
  | .integer n => n
  | .real x => x.value

/-- Some double has the value of the number. -/
def Exact (n : Number) : Prop := ∃ x : FiniteDouble, x.value = n.value

/-- The first number is an integer that is no double, and the second the double nearest to it. -/
inductive Blurs : Number → Number → Prop
  | nearest {i : ℤ} {x : FiniteDouble} (inexact : ¬ Exact (.integer i)) (h : x.NearestTo i) :
      Blurs (.integer i) (.real x)

theorem not_blurs_integer (m : Number) (j : ℤ) : ¬ m.Blurs (.integer j) := nofun

theorem not_real_blurs (x : FiniteDouble) (n : Number) : ¬ Blurs (.real x) n := nofun

/-- A double that an integer is rounded to differs from it. -/
theorem Blurs.value_ne {m n : Number} (h : m.Blurs n) : m.value ≠ n.value := by
  obtain @⟨i, x, inexact, -⟩ := h
  exact fun hvalue => inexact ⟨x, hvalue.symm⟩

theorem natAbs_le_of_inRange {i : ℤ} (h : InRange i) : i.natAbs ≤ 2 ^ 64 := by
  obtain ⟨hlow, hhigh⟩ := h
  omega

/-! ### Equality of numbers -/

theorem strictEq_comm (m n : Number) : m.strictEq n = n.strictEq m := by
  cases m <;> cases n <;> simp only [strictEq]
  · exact Bool.beq_comm
  · exact Double.numEq_comm _ _
  · exact Double.numEq_comm _ _
  · exact Double.numEq_comm _ _

theorem strictEq_integer_real {i : ℤ} (h : InRange i) {x : FiniteDouble} :
    strictEq (.integer i) (.real x) = true ↔ x.NearestTo i :=
  Double.numEq_ofInt_iff (natAbs_le_of_inRange h)

/-- The double nearest to an integer has its value, or no double has. -/
theorem nearestTo_iff {i : ℤ} {x : FiniteDouble} :
    x.NearestTo i ↔ x.value = i ∨ Blurs (.integer i) (.real x) := by
  constructor
  · intro h
    by_cases hexact : Exact (.integer i)
    · obtain ⟨y, hy⟩ := hexact
      left
      have hy' : y.NearestTo i := by
        have hself := y.nearestTo_value
        rwa [hy] at hself
      exact (h.unique hy').trans hy
    · exact .inr ⟨hexact, h⟩
  · rintro (h | ⟨-, h⟩)
    · rw [← h]
      exact x.nearestTo_value
    · exact h

/-- Numbers are equal if they have one value, or if one is an integer that the other, a double, is
nearest to. -/
theorem strictEq_iff {m n : Number} (hm : (Json.number m).WellFormed)
    (hn : (Json.number n).WellFormed) :
    m.strictEq n = true ↔ m.value = n.value ∨ m.Blurs n ∨ n.Blurs m := by
  have hmixed : ∀ {i : ℤ} {x : FiniteDouble}, InRange i →
      (strictEq (.integer i) (.real x) = true ↔
        (i : ℚ) = x.value ∨ Blurs (.integer i) (.real x)) := by
    intro i x hi
    rw [strictEq_integer_real hi, nearestTo_iff, eq_comm]
  cases m with
  | integer i =>
    cases n with
    | integer j =>
      simp only [not_blurs_integer, or_false]
      show (i == j) = true ↔ (i : ℚ) = j
      rw [Int.cast_inj]
      exact beq_iff_eq
    | real x =>
      simp only [not_real_blurs, or_false]
      exact hmixed hm
  | real x =>
    cases n with
    | integer j =>
      simp only [not_real_blurs, false_or]
      rw [strictEq_comm, hmixed hn, eq_comm]
      rfl
    | real y =>
      simp only [not_real_blurs, or_false]
      exact FiniteDouble.numEq_iff

theorem numEq_toDouble_of_strictEq {m n : Number} (h : m.strictEq n = true) :
    Double.numEq m.toDouble n.toDouble = true := by
  cases m with
  | real x => exact h
  | integer i =>
    cases n with
    | real y => exact h
    | integer j =>
      obtain rfl : i = j := beq_iff_eq.mp h
      exact Double.numEq_ofInt_self i

/-- The first and the last number are different integers, and the one between them is a double. -/
inductive Bridged : Number → Number → Number → Prop
  | integers {i j : ℤ} (x : FiniteDouble) (h : i ≠ j) :
      Bridged (.integer i) (.real x) (.integer j)

/-- Two numbers that equal a third one equal each other, unless they are different integers and the
third is a double. -/
theorem strictEq_trans_iff {m n k : Number} (hmn : m.strictEq n = true)
    (hnk : n.strictEq k = true) : m.strictEq k = true ↔ ¬ Bridged m n k := by
  have hround : Double.numEq m.toDouble k.toDouble = true :=
    Double.numEq_trans (numEq_toDouble_of_strictEq hmn) (numEq_toDouble_of_strictEq hnk)
  cases m with
  | real x => exact ⟨fun _ => nofun, fun _ => hround⟩
  | integer i =>
    cases k with
    | real y => exact ⟨fun _ => nofun, fun _ => hround⟩
    | integer j =>
      -- Only here the comparison is not one of doubles.
      have hexact : strictEq (.integer i) (.integer j) = true ↔ i = j := beq_iff_eq
      rw [hexact]
      cases n with
      | integer l =>
        have hil : i = l := beq_iff_eq.mp hmn
        have hlj : l = j := beq_iff_eq.mp hnk
        exact ⟨fun _ => nofun, fun _ => hil.trans hlj⟩
      | real x =>
        constructor
        · rintro rfl ⟨-, hne⟩
          exact hne rfl
        · intro h
          by_contra hne
          exact h (.integers x hne)

end Number

namespace Operand

variable {x y z : Operand}

theorem strictEq_number (m n : Number) :
    strictEq (.json (.number m)) (.json (.number n)) = m.strictEq n := rfl

/-- Only operands of one kind are equal, `null` only to itself, and nothing to what is made of other
values. -/
theorem kind_eq_of_strictEq (h : strictEq x y = true) :
    x.kind = y.kind ∧ (x = .null ↔ y = .null) ∧ ¬ Composite x ∧ ¬ Composite y := by
  unfold strictEq at h
  split at h
  · exact ⟨rfl, Iff.rfl, nofun, nofun⟩
  · exact ⟨rfl, Iff.rfl, nofun, nofun⟩
  · exact ⟨rfl, ⟨nofun, nofun⟩, nofun, nofun⟩
  · exact ⟨rfl, ⟨nofun, nofun⟩, nofun, nofun⟩
  · exact ⟨rfl, ⟨nofun, nofun⟩, nofun, nofun⟩
  · exact nomatch h

/-- Equal operands are numbers, or they are the same. -/
theorem eq_or_number_of_strictEq (h : strictEq x y = true) :
    x = y ∨ ∃ m n, x = .json (.number m) ∧ y = .json (.number n) ∧ m.strictEq n = true := by
  unfold strictEq at h
  split at h
  · exact .inl rfl
  · exact .inl rfl
  · exact .inl (by rw [beq_iff_eq.mp h])
  · exact .inl (by rw [beq_iff_eq.mp h])
  · exact .inr ⟨_, _, rfl, rfl, h⟩
  · exact nomatch h

theorem strictEq_symm (h : strictEq x y = true) : strictEq y x = true := by
  obtain rfl | ⟨m, n, rfl, rfl, hmn⟩ := eq_or_number_of_strictEq h
  · exact h
  · rwa [strictEq_number, Number.strictEq_comm]

/-- The first and the last operand are different integers, and the one between them is a double. -/
inductive Bridged : Operand → Operand → Operand → Prop
  | numbers {m n k : Number} (h : m.Bridged n k) :
      Bridged (.json (.number m)) (.json (.number n)) (.json (.number k))

/-- Operands that equal a third one equal each other, unless the third is a double between different
integers. -/
theorem strictEq_trans_iff (hxy : strictEq x y = true) (hyz : strictEq y z = true) :
    strictEq x z = true ↔ ¬ Bridged x y z := by
  obtain rfl | ⟨m, n, rfl, rfl, hmn⟩ := eq_or_number_of_strictEq hxy
  · refine ⟨fun _ hbridged => ?_, fun _ => hyz⟩
    obtain ⟨⟨⟩⟩ := hbridged
  · obtain rfl | ⟨n', k, hn, rfl, hnk⟩ := eq_or_number_of_strictEq hyz
    · refine ⟨fun _ hbridged => ?_, fun _ => hxy⟩
      obtain ⟨⟨⟩⟩ := hbridged
    · obtain rfl : n' = n := by simpa using hn.symm
      rw [strictEq_number, Number.strictEq_trans_iff hmn hnk]
      refine not_congr ⟨.numbers, ?_⟩
      rintro ⟨h⟩
      exact h

/-- **The laws of strict equality.**  It is reflexive on all but arrays and objects and symmetric, and
it is transitive but for different integers that equal one double.  Equal operands have one kind, both
are `null` or none is, and neither is made of other values.  Numbers are equal exactly if they have
one value, or if one is an integer without a double of its own and the other the double nearest to it;
so equality is that of values for all but such pairs.  Integers up to `2 ^ 53` have a double. -/
theorem strictEq_laws (x y z : Operand) :
    (strictEq x x = true ↔ ¬ Composite x) ∧
    strictEq x y = strictEq y x ∧
    (strictEq x y = true → strictEq y z = true → (strictEq x z = true ↔ ¬ Bridged x y z)) ∧
    (strictEq x y = true →
      x.kind = y.kind ∧ (x = .null ↔ y = .null) ∧ ¬ Composite x ∧ ¬ Composite y) ∧
    (∀ m n : Number, x = .json (.number m) → y = .json (.number n) →
      (Json.number m).WellFormed → (Json.number n).WellFormed →
      (strictEq x y = true ↔ m.value = n.value ∨ m.Blurs n ∨ n.Blurs m) ∧
      ((strictEq x y = true ↔ m.value = n.value) ↔ ¬ m.Blurs n ∧ ¬ n.Blurs m)) ∧
    (∀ i : ℤ, |i| ≤ 2 ^ 53 → Number.Exact (.integer i)) := by
  refine ⟨strictEq_self, ?_, strictEq_trans_iff, kind_eq_of_strictEq, ?_,
    fun i h => Double.exists_value_eq h⟩
  · rw [Bool.eq_iff_iff]
    exact ⟨strictEq_symm, strictEq_symm⟩
  · rintro m n rfl rfl hm hn
    have hequal : strictEq (.json (.number m)) (.json (.number n)) = true ↔
        m.value = n.value ∨ m.Blurs n ∨ n.Blurs m := Number.strictEq_iff hm hn
    refine ⟨hequal, ?_⟩
    rw [hequal]
    constructor
    · intro h
      exact ⟨fun hmn => hmn.value_ne (h.mp (.inr (.inl hmn))),
        fun hnm => hnm.value_ne (h.mp (.inr (.inr hnm))).symm⟩
    · rintro ⟨hmn, hnm⟩
      exact ⟨fun h => h.resolve_right (not_or.mpr ⟨hmn, hnm⟩), .inl⟩

/-- The double `2 ^ 53` equals two different integers, and so a number of another value. -/
theorem not_transitive_strictEq :
    let below : Operand := .ofNat (2 ^ 53)
    let double : Operand := .json (.number (.real ⟨false, 1076 * 2 ^ 52, by decide⟩))
    let above : Operand := .ofNat (2 ^ 53 + 1)
    strictEq below double = true ∧ strictEq double above = true ∧ strictEq below above = false := by
  decide +kernel

end Operand

end ApiCheck
