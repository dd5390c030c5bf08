import ApiCheck.Time.Instant
import Mathlib.Algebra.Order.Group.Abs
import Mathlib.Algebra.Order.Group.Int
import Mathlib.Algebra.Order.Group.Unbundled.Int

/-!
# Distances of instants

`Instant.nanos` counts the nanoseconds from the first of January 1970 to an instant.  The distance of
two instants is the size of the difference of these counts (`Instant.distance_eq`), unless one of them
lies in a leap second, which may add or take away one second (`Instant.abs_since_sub_le`).

The years of an instant are so few that the distance of two is far below `2 ^ 63 - 1` milliseconds
(`Instant.InRange.distance_le`).
-/

namespace ApiCheck.Time

namespace Instant

/-! ### Counting nanoseconds -/

/-- The nanoseconds since the first of January 1970, every day counted with `86400` seconds. -/
def nanos (a : Instant) : ℤ :=
  (a.day * 86400 + a.second) * 1000000000 + a.nano

/-- The instant lies in a leap second. -/
def IsLeap (a : Instant) : Prop := 1000000000 ≤ a.nano

instance : DecidablePred IsLeap := fun a => inferInstanceAs (Decidable (1000000000 ≤ a.nano))

variable {a b : Instant}

/-- A leap second changes the time between two instants by one second at most. -/
theorem abs_since_sub_le (a b : Instant) : |a.since b - (a.nanos - b.nanos)| ≤ 1000000000 := by
  have hleap : ∃ leap : ℤ, |leap| ≤ 1 ∧
      a.since b = ((a.day - b.day) * 86400 + (a.second - b.second) + leap) * 1000000000 +
        (a.nano - b.nano) := by
    refine ⟨_, ?_, rfl⟩
    split
    · split <;> decide
    · split
      · split <;> decide
      · decide
  obtain ⟨leap, hle, hsince⟩ := hleap
  obtain ⟨hlow, hhigh⟩ := abs_le.mp hle
  rw [hsince, nanos, nanos, abs_le]
  constructor <;> omega

/-- Away from leap seconds the time between two instants is the difference of their nanoseconds. -/
theorem since_eq (ha : ¬ a.IsLeap) (hb : ¬ b.IsLeap) : a.since b = a.nanos - b.nanos := by
  unfold IsLeap at ha hb
  simp only [since, if_neg ha, if_neg hb, ite_self]
  rw [nanos, nanos]
  omega

theorem distance_eq (ha : ¬ a.IsLeap) (hb : ¬ b.IsLeap) :
    (a.distance b : ℤ) = |a.nanos - b.nanos| := by
  rw [distance, since_eq ha hb, Int.natCast_natAbs]

/-! ### The range of instants -/

/-- The instant has a day in the range of dates, a second of a day and less than two seconds of
nanoseconds. -/
structure InRange (a : Instant) : Prop where
  minDay_le : minDay ≤ a.day
  le_maxDay : a.day ≤ maxDay
  second_lt : a.second < 86400
  nano_lt : a.nano < 2000000000

theorem InRange.le_nanos (h : a.InRange) : -8400000000000000 * 1000000 ≤ a.nanos := by
  have hmin : minDay = -96465292 := by decide +kernel
  have hday := h.minDay_le
  rw [nanos]
  omega

theorem InRange.nanos_le (h : a.InRange) : a.nanos ≤ 8400000000000000 * 1000000 := by
  have hmax : maxDay = 95026236 := by decide +kernel
  have hday := h.le_maxDay
  have hsecond := h.second_lt
  have hnano := h.nano_lt
  rw [nanos]
  omega

/-- Two instants are as far from each other as their range allows, and a leap second. -/
theorem InRange.distance_le (ha : a.InRange) (hb : b.InRange) :
    a.distance b ≤ 2 * 8400000000000000 * 1000000 + 1000000000 := by
  have hsince := abs_le.mp (abs_since_sub_le a b)
  have hlow := ha.le_nanos
  have hhigh := ha.nanos_le
  have hlow' := hb.le_nanos
  have hhigh' := hb.nanos_le
  rw [distance]
  omega

/-- An instant of a day is in range if its time of day is. -/
theorem inRange_of_ofDay? {day : ℤ} {second nano : Nat} (hsecond : second < 86400)
    (hnano : nano < 2000000000) (h : ofDay? day second nano = some a) : a.InRange := by
  unfold ofDay? at h
  split at h
  · next hday =>
    obtain rfl := Option.some.inj h
    exact ⟨hday.1, hday.2, hsecond, hnano⟩
  · cases h

theorem inRange_of_ofSeconds? {seconds : ℤ} {nano : Nat} (hnano : nano < 2000000000)
    (h : ofSeconds? seconds nano = some a) : a.InRange := by
  refine inRange_of_ofDay? ?_ hnano h
  have hmod : seconds.fmod 86400 < 86400 := Int.fmod_lt_of_pos seconds (by decide)
  omega

theorem inRange_of_ofMillis? {ms : ℤ} (h : ofMillis? ms = some a) : a.InRange := by
  refine inRange_of_ofSeconds? ?_ h
  have hmod : ms.fmod 1000 < 1000 := Int.fmod_lt_of_pos ms (by decide)
  omega

theorem inRange_of_ofMicros? {us : ℤ} (h : ofMicros? us = some a) : a.InRange := by
  refine inRange_of_ofSeconds? ?_ h
  have hmod : us.fmod 1000000 < 1000000 := Int.fmod_lt_of_pos us (by decide)
  omega

end Instant

end ApiCheck.Time
