import ApiCheck.Text.Units
import Mathlib.Data.List.Infix
import Mathlib.Order.Nat

/-!
# Places in a text

A place in a text is a number of bytes that the characters in front of it take.  `slice?` gives the
characters between two places; it refuses numbers that are in the wrong order, lie beyond the end or
inside a character (`slice?_eq_some_iff`).

`Leftmost mark cs before after` says that `mark` stands in `cs` between `before` and `after` and
nowhere further to the left.  A mark that is in a text at all is leftmost somewhere
(`exists_leftmost`), and it is leftmost where none begins in front of it (`leftmost_iff`).
-/

namespace ApiCheck.Text

/-! ### Bytes -/

theorem utf8Size_eq_zero_iff {cs : List Char} : utf8Size cs = 0 ↔ cs = [] := by
  cases cs with
  | nil => exact iff_of_true rfl rfl
  | cons c cs =>
    have hpos := c.utf8Size_pos
    rw [utf8Size_cons]
    exact iff_of_false (by omega) (List.cons_ne_nil c cs)

/-- The characters before and after a place. -/
def splitAtByte? : Nat → List Char → Option (List Char × List Char)
  | 0, cs => some ([], cs)
  | _ + 1, [] => none
  | n + 1, c :: cs =>
    if c.utf8Size ≤ n + 1 then
      (splitAtByte? (n + 1 - c.utf8Size) cs).map fun (before, after) => (c :: before, after)
    else none

theorem splitAtByte?_append (before after : List Char) :
    splitAtByte? (utf8Size before) (before ++ after) = some (before, after) := by
  induction before with
  | nil => simp only [utf8Size_nil, List.nil_append, splitAtByte?]
  | cons c before ih =>
    have hpos := c.utf8Size_pos
    obtain ⟨n, hn⟩ : ∃ n, utf8Size (c :: before) = n + 1 :=
      ⟨c.utf8Size + utf8Size before - 1, by rw [utf8Size_cons]; omega⟩
    have hsize : c.utf8Size + utf8Size before = n + 1 := hn
    have hrest : n + 1 - c.utf8Size = utf8Size before := by omega
    rw [hn, List.cons_append, splitAtByte?, if_pos (by omega), hrest, ih]
    rfl

/-- A place is where the characters in front of it have that many bytes. -/
theorem splitAtByte?_eq_some_iff {n : Nat} {cs before after : List Char} :
    splitAtByte? n cs = some (before, after) ↔ cs = before ++ after ∧ utf8Size before = n := by
  constructor
  · intro h
    fun_induction splitAtByte? n cs generalizing before after with
    | case1 cs =>
      obtain ⟨rfl, rfl⟩ := Prod.mk.inj (Option.some.inj h)
      exact ⟨rfl, rfl⟩
    | case2 n => exact absurd h (by simp)
    | case3 n c cs hfits ih =>
      obtain ⟨⟨before', after'⟩, hrest, heq⟩ := Option.map_eq_some_iff.mp h
      obtain ⟨rfl, rfl⟩ := Prod.mk.inj heq
      obtain ⟨rfl, hsize⟩ := ih hrest
      refine ⟨rfl, ?_⟩
      rw [utf8Size_cons, hsize]
      omega
    | case4 n c cs hfits => exact absurd h (by simp)
  · rintro ⟨rfl, rfl⟩
    exact splitAtByte?_append before after

/-- The characters between two places. -/
def slice? (start stop : Nat) (cs : List Char) : Option (List Char) :=
  if start ≤ stop then
    (splitAtByte? start cs).bind fun (_, rest) => (splitAtByte? (stop - start) rest).map Prod.fst
  else none

/-- There are characters between two places exactly if both are places of the text, in this order. -/
theorem slice?_eq_some_iff {start stop : Nat} {cs middle : List Char} :
    slice? start stop cs = some middle ↔
      ∃ before after, cs = before ++ middle ++ after ∧ utf8Size before = start ∧
        utf8Size (before ++ middle) = stop := by
  constructor
  · intro h
    unfold slice? at h
    split at h
    · next horder =>
      obtain ⟨⟨before, rest⟩, hbefore, hrest⟩ := Option.bind_eq_some_iff.mp h
      obtain ⟨⟨middle', after⟩, hmiddle, heq⟩ := Option.map_eq_some_iff.mp hrest
      obtain rfl : middle' = middle := heq
      obtain ⟨rfl, hstart⟩ := splitAtByte?_eq_some_iff.mp hbefore
      obtain ⟨rfl, hsize⟩ := splitAtByte?_eq_some_iff.mp hmiddle
      refine ⟨before, after, (List.append_assoc _ _ _).symm, hstart, ?_⟩
      rw [utf8Size_append]
      omega
    · exact absurd h (by simp)
  · rintro ⟨before, after, rfl, rfl, rfl⟩
    have hsize : utf8Size before + utf8Size middle - utf8Size before = utf8Size middle := by omega
    rw [utf8Size_append, slice?, if_pos (Nat.le_add_right _ _), List.append_assoc,
      splitAtByte?_append, Option.bind_some, hsize]
    dsimp only
    rw [splitAtByte?_append]
    rfl

example : slice? 1 3 ['a', 'é', 'b'] = some ['é'] ∧ slice? 1 2 ['a', 'é', 'b'] = none := by decide

/-! ### Leftmost occurrences -/

section

variable {α : Type} {mark cs before after : List α}

/-- The mark stands in the text between two parts, and nowhere further to the left. -/
structure Leftmost (mark cs before after : List α) : Prop where
  eq_append : cs = before ++ mark ++ after
  least : ∀ before' after', cs = before' ++ mark ++ after' → before.length ≤ before'.length

/-- A mark that is in the text at all is leftmost somewhere. -/
theorem exists_leftmost (h : mark <:+: cs) : ∃ before after, Leftmost mark cs before after := by
  classical
  have hplace : ∃ n before after, cs = before ++ mark ++ after ∧ before.length = n := by
    obtain ⟨before, after, heq⟩ := h
    exact ⟨before.length, before, after, heq.symm, rfl⟩
  obtain ⟨before, after, heq, hlength⟩ := Nat.find_spec hplace
  refine ⟨before, after, heq, fun before' after' heq' => ?_⟩
  rw [hlength]
  exact Nat.find_min' hplace ⟨before', after', heq', rfl⟩

/-- A mark is leftmost where no other begins in front of it, not even one that overlaps it. -/
theorem leftmost_iff (hmark : mark ≠ []) : Leftmost mark cs before after ↔
    cs = before ++ mark ++ after ∧ ¬ mark <:+: before ++ mark.dropLast := by
  have hpos : 0 < mark.length := List.length_pos_iff.mpr hmark
  have hlast : mark = mark.dropLast ++ [mark.getLast hmark] :=
    (List.dropLast_append_getLast hmark).symm
  constructor
  · rintro ⟨heq, hleast⟩
    refine ⟨heq, fun ⟨before', after', hinfix⟩ => ?_⟩
    have hearlier : cs = before' ++ mark ++ (after' ++ [mark.getLast hmark] ++ after) := by
      calc cs = before ++ (mark.dropLast ++ [mark.getLast hmark]) ++ after := by rw [heq, ← hlast]
        _ = (before ++ mark.dropLast) ++ [mark.getLast hmark] ++ after := by simp
        _ = before' ++ mark ++ (after' ++ [mark.getLast hmark] ++ after) := by
          rw [← hinfix]
          simp
    have hle := hleast _ _ hearlier
    have hlength := congrArg List.length hinfix
    simp only [List.length_append, List.length_dropLast] at hlength
    omega
  · rintro ⟨heq, hfirst⟩
    refine ⟨heq, fun before' after' heq' => ?_⟩
    by_contra hlt
    -- The earlier mark would lie in front of the last character of this one.
    have hprefix : before' ++ mark <+: cs := ⟨after', heq'.symm⟩
    have hprefix' : before ++ mark.dropLast <+: cs := by
      refine ⟨[mark.getLast hmark] ++ after, ?_⟩
      calc before ++ mark.dropLast ++ ([mark.getLast hmark] ++ after)
          = before ++ (mark.dropLast ++ [mark.getLast hmark]) ++ after := by simp
        _ = cs := by rw [← hlast, heq]
    have hlength : (before' ++ mark).length ≤ (before ++ mark.dropLast).length := by
      simp only [List.length_append, List.length_dropLast]
      omega
    obtain ⟨rest, hrest⟩ := List.prefix_of_prefix_length_le hprefix hprefix' hlength
    exact hfirst ⟨before', rest, hrest⟩

end

end ApiCheck.Text
