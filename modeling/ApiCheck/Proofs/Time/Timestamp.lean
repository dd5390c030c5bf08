import ApiCheck.Proofs.Time.Instant
import ApiCheck.Time.Timestamp

/-!
# The range of timestamps

Whatever is read as a timestamp is an instant in range (`inRange_of_ofOperand?`): its day lies in the
years of an instant, and a text gives less than a second of nanoseconds, to which a leap second adds one
second.
-/

namespace ApiCheck.Time

/-! ### Fractions of a second -/

/-- The value of some digits has no more digits than they are. -/
theorem digitsValue_lt (ds : List Char) : digitsValue ds < 10 ^ ds.length := by
  have hdigit : ∀ c, (digitValue? c).getD 0 ≤ 9 := by
    intro c
    unfold digitValue?
    split
    · next hc =>
      have hhigh : c.toNat ≤ '9'.toNat := hc.2
      rw [Option.getD_some]
      exact Nat.sub_le_sub_right hhigh '0'.toNat
    · exact Nat.zero_le 9
  have hfold : ∀ acc, ds.foldl (fun acc c => 10 * acc + (digitValue? c).getD 0) acc <
      (acc + 1) * 10 ^ ds.length := by
    induction ds with
    | nil => intro acc; simp
    | cons c ds ih =>
      intro acc
      have hc := hdigit c
      calc (c :: ds).foldl (fun acc c => 10 * acc + (digitValue? c).getD 0) acc
          < (10 * acc + (digitValue? c).getD 0 + 1) * 10 ^ ds.length := ih _
        _ ≤ ((acc + 1) * 10) * 10 ^ ds.length := Nat.mul_le_mul_right _ (by omega)
        _ = (acc + 1) * 10 ^ (c :: ds).length := by
          rw [List.length_cons, Nat.pow_succ, Nat.mul_assoc, Nat.mul_comm 10]
  simpa [digitsValue] using hfold 0

theorem fraction?_lt {cs rest : List Char} {nano : Nat} (h : fraction? cs = some (nano, rest)) :
    nano < 1000000000 := by
  unfold fraction? at h
  dsimp only at h
  split at h
  · cases h
  · obtain ⟨rfl, -⟩ := Prod.mk.inj (Option.some.inj h)
    have hlength : ((cs.takeWhile isDigit).take 9).length ≤ 9 := by
      rw [List.length_take]
      exact Nat.min_le_left 9 _
    calc digitsValue ((cs.takeWhile isDigit).take 9) *
          10 ^ (9 - ((cs.takeWhile isDigit).take 9).length)
        < 10 ^ ((cs.takeWhile isDigit).take 9).length *
          10 ^ (9 - ((cs.takeWhile isDigit).take 9).length) :=
          Nat.mul_lt_mul_of_pos_right (digitsValue_lt _) (Nat.pow_pos (by decide))
      _ = 10 ^ 9 := by rw [← Nat.pow_add, Nat.add_sub_cancel' hlength]

theorem optionalFraction?_lt {cs rest : List Char} {nano : Nat}
    (h : optionalFraction? cs = some (nano, rest)) : nano < 1000000000 := by
  unfold optionalFraction? at h
  split at h
  · exact fraction?_lt h
  · obtain ⟨rfl, -⟩ := Prod.mk.inj (Option.some.inj h)
    decide

/-! ### Readers -/

/-- What is read, if anything is, is an instant in range. -/
def ReadsInRange (read : Option Instant) : Prop := ∀ a, read = some a → a.InRange

namespace ReadsInRange

theorem none : ReadsInRange none := by
  intro a h
  cases h

/-- A reader that goes on with what was read before need only read in range from there. -/
theorem bind {α : Type} {first : Option α} {next : α → Option Instant}
    (h : ∀ x, first = some x → ReadsInRange (next x)) : ReadsInRange (first >>= next) := by
  intro a ha
  obtain ⟨x, hx, hnext⟩ := Option.bind_eq_some_iff.mp ha
  exact h x hx a hnext

theorem orElse {first : Option Instant} {next : Unit → Option Instant} (h : ReadsInRange first)
    (h' : ReadsInRange (next ())) : ReadsInRange (first.orElse next) := by
  cases first with
  | none => exact h'
  | some b => exact h

theorem ite {p : Prop} [Decidable p] {read read' : Option Instant} (h : ReadsInRange read)
    (h' : ReadsInRange read') : ReadsInRange (if p then read else read') := by
  split
  · exact h
  · exact h'

end ReadsInRange

/-- A moment with less than a second of nanoseconds denotes an instant in range. -/
theorem Moment.readsInRange_instant? {m : Moment} (hnano : m.nano < 1000000000) :
    ReadsInRange m.instant? := by
  -- The second 60 is a leap second, whose nanoseconds follow those of the second 59.
  have hleap : (if m.second = 60 then (59, 1000000000 + m.nano) else (m.second, m.nano)).2 <
      2000000000 := by
    split
    · show 1000000000 + m.nano < 2000000000
      omega
    · show m.nano < 2000000000
      omega
  refine .bind fun day _ => .ite .none ?_
  exact fun a h => Instant.inRange_of_ofSeconds? hleap h

section

variable (cs : List Char)

theorem readsInRange_internet? : ReadsInRange (internet? cs) := by
  -- Of the parts in front of the fraction none matters.
  unfold internet?
  iterate 11 refine .bind fun _ _ => ?_
  refine .bind fun nano hnano => .bind fun _ _ => .ite ?_ .none
  exact Moment.readsInRange_instant? (optionalFraction?_lt hnano)

theorem readsInRange_mail? : ReadsInRange (mail? cs) := by
  -- No part is a fraction.
  unfold mail?
  iterate 14 refine .bind fun _ _ => ?_
  refine .ite ?_ .none
  exact Moment.readsInRange_instant? (show 0 < 1000000000 by decide)

theorem readsInRange_plainWith? (separator : List Char → Option (List Char)) :
    ReadsInRange (plainWith? separator cs) := by
  unfold plainWith?
  iterate 11 refine .bind fun _ _ => ?_
  refine .bind fun nano hnano => .ite ?_ .none
  exact Moment.readsInRange_instant? (optionalFraction?_lt hnano)

end

theorem readsInRange_parse? (s : String) : ReadsInRange (parse? s) := by
  refine .orElse (readsInRange_internet? _) (.orElse (readsInRange_mail? _) (.orElse ?_ ?_))
  · exact readsInRange_plainWith? _ _
  · exact readsInRange_plainWith? _ _

/-! ### Numbers -/

theorem readsInRange_ofFractionalMillis? (x : FiniteDouble) :
    ReadsInRange (ofFractionalMillis? x) := by
  refine .ite .none ?_
  split
  · exact fun a h => Instant.inRange_of_ofMicros? h
  · exact .none

theorem readsInRange_ofNumber? (n : Number) : ReadsInRange (ofNumber? n) := by
  cases n with
  | integer n =>
    refine .ite (fun a h => Instant.inRange_of_ofMillis? h) (.bind fun x _ => ?_)
    exact readsInRange_ofFractionalMillis? x
  | real x => exact readsInRange_ofFractionalMillis? x

/-- **The range of timestamps**: every operand that denotes an instant denotes one in range. -/
theorem inRange_of_ofOperand? {x : Operand} {a : Instant} (h : ofOperand? x = some a) :
    a.InRange := by
  unfold ofOperand? at h
  split at h
  · exact readsInRange_parse? _ a h
  · exact readsInRange_ofNumber? _ a h
  · cases h

end ApiCheck.Time
