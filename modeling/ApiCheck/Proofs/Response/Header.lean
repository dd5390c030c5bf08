import ApiCheck.Response
import Mathlib.Data.List.Forall2
import Mathlib.Data.List.Sort
import Mathlib.Logic.Equiv.Defs

/-!
# Headers of one name

Two names are the same (`SameName`) if they differ at most in the case of ASCII letters.  A lookup
finds nothing exactly if no header has the name (`findInHeader_eq_undefined_iff`), and otherwise the
values of all headers that have it, in their order (`findInHeader_of_exists`).

What is found depends neither on the case of the name (`SameName.findInHeader_eq`) nor on how headers
of different names stand to each other: another order of the headers that keeps those of each name in
theirs (`Reordered`) has the same values (`Reordered.findInHeader_eq`).
-/

namespace ApiCheck.Response

/-! ### Names -/

/-- Two characters are equal, or they are one ASCII letter, large and small. -/
def SameLetter (c d : Char) : Prop :=
  c = d ∨ (c.isUpper = true ∧ d.toNat = c.toNat + 32) ∨ (d.isUpper = true ∧ c.toNat = d.toNat + 32)

/-- Two names differ at most in the case of ASCII letters. -/
def SameName (a b : String) : Prop := List.Forall₂ SameLetter a.toList b.toList

theorem isUpper_iff {c : Char} : c.isUpper = true ↔ 65 ≤ c.toNat ∧ c.toNat ≤ 90 := by
  delta Char.isUpper
  rw [decide_eq_true_iff]
  exact Iff.rfl

theorem toNat_toLower (c : Char) :
    c.toLower.toNat = if 65 ≤ c.toNat ∧ c.toNat ≤ 90 then c.toNat + 32 else c.toNat := by
  delta Char.toLower
  split
  · next hval =>
    have hrange : 65 ≤ c.toNat ∧ c.toNat ≤ 90 := hval
    have hsum : c.toNat + 32 < 2 ^ 32 := by omega
    rw [if_pos hrange]
    show (c.val + 32).toNat = c.toNat + 32
    rw [UInt32.toNat_add]
    exact Nat.mod_eq_of_lt hsum
  · next hval =>
    have hrange : ¬ (65 ≤ c.toNat ∧ c.toNat ≤ 90) := hval
    rw [if_neg hrange]

/-- Characters are the same letter if they have one small letter. -/
theorem toLower_eq_toLower_iff {c d : Char} : c.toLower = d.toLower ↔ SameLetter c d := by
  rw [SameLetter, isUpper_iff, isUpper_iff, ← Char.toNat_inj, ← Char.toNat_inj, toNat_toLower,
    toNat_toLower]
  split
  · split <;> omega
  · split <;> omega

theorem sameHeader_iff {a b : String} : sameHeader a b = true ↔ SameName a b := by
  have hletter : (fun c d : Char => c.toLower = d.toLower) = SameLetter := by
    funext c d
    exact propext toLower_eq_toLower_iff
  rw [sameHeader, beq_iff_eq, SameName, ← hletter, ← List.forall₂_eq_eq_eq,
    List.forall₂_map_left_iff, List.forall₂_map_right_iff]

instance : DecidableRel SameName := fun _ _ => decidable_of_iff _ sameHeader_iff

theorem SameName.symm {a b : String} (h : SameName a b) : SameName b a := by
  rw [← sameHeader_iff, sameHeader, beq_iff_eq] at h ⊢
  exact h.symm

theorem SameName.trans {a b c : String} (h : SameName a b) (h' : SameName b c) : SameName a c := by
  rw [← sameHeader_iff, sameHeader, beq_iff_eq] at h h' ⊢
  exact h.trans h'

/-! ### Lookups -/

/-- The headers of a name, in their order. -/
def named (headers : List (String × String)) (name : String) : List (String × String) :=
  headers.filter fun h => SameName h.1 name

variable {r : Response} {name : String}

theorem headerValues_eq (r : Response) (name : String) :
    r.headerValues name = (named r.headers name).map Prod.snd := by
  have hsame : ∀ h ∈ r.headers, sameHeader h.1 name = decide (SameName h.1 name) := by
    intro h _
    rw [Bool.eq_iff_iff, sameHeader_iff, decide_eq_true_iff]
  rw [headerValues, named, List.filter_congr hsame]

theorem named_eq_nil_iff {headers : List (String × String)} :
    named headers name = [] ↔ ∀ h ∈ headers, ¬ SameName h.1 name := by
  simp only [named, List.filter_eq_nil_iff, decide_eq_true_iff]

/-- A lookup finds nothing exactly if no header has the name. -/
theorem findInHeader_eq_undefined_iff :
    r.findInHeader name = .undefined ↔ ∀ h ∈ r.headers, ¬ SameName h.1 name := by
  rw [← named_eq_nil_iff, findInHeader, headerValues_eq]
  cases named r.headers name with
  | nil => exact iff_of_true rfl rfl
  | cons h hs => exact iff_of_false (fun heq => by cases heq) (List.cons_ne_nil h hs)

/-- A lookup finds the values of all headers of the name as one text. -/
theorem findInHeader_of_exists (h : ∃ h ∈ r.headers, SameName h.1 name) :
    r.findInHeader name =
      .ofString (", ".intercalate ((named r.headers name).map Prod.snd)) := by
  have hne : named r.headers name ≠ [] := by
    rw [Ne, named_eq_nil_iff]
    push Not
    exact h
  rw [findInHeader, headerValues_eq]
  cases hnamed : named r.headers name with
  | nil => exact absurd hnamed hne
  | cons h hs => rfl

example : findInHeader
    { label := "[GET /]", status := 200, body := none,
      headers := [("Set-Cookie", "a=1"), ("etag", ""), ("set-cookie", "b=2")] } "SET-COOKIE" =
    .ofString "a=1, b=2" := rfl

/-- The case of a name does not matter. -/
theorem SameName.findInHeader_eq {name' : String} (h : SameName name name') (r : Response) :
    r.findInHeader name' = r.findInHeader name := by
  have hnamed : named r.headers name' = named r.headers name := by
    refine List.filter_congr fun header _ => ?_
    rw [decide_eq_decide]
    exact ⟨fun hsame => hsame.trans h.symm, fun hsame => hsame.trans h⟩
  rw [findInHeader, findInHeader, headerValues_eq, headerValues_eq, hnamed]

/-! ### Reordering -/

/-- The second list has the headers of the first in another order, which keeps the headers of one name
in the order in which they stand. -/
def Reordered (headers headers' : List (String × String)) : Prop :=
  ∃ place : Fin headers.length ≃ Fin headers'.length,
    (∀ i, headers'[place i] = headers[i]) ∧
    ∀ i j, i < j → SameName headers[i].1 headers[j].1 → place i < place j

section

variable {α : Type} {xs ys : List α} {p : α → Bool}

/-- The elements that are kept stand at the places that are. -/
theorem filter_eq_map_finRange (xs : List α) (p : α → Bool) :
    xs.filter p = ((List.finRange xs.length).filter fun i => p xs[i]).map fun i => xs[i] := by
  conv_lhs => rw [← List.map_getElem_finRange xs, List.filter_map]
  rfl

/-- Lists of which one has the elements of the other at other places have the same elements of a kind
if these places are in the same order. -/
theorem filter_eq_of_place (place : Fin xs.length ≃ Fin ys.length)
    (hplace : ∀ i, ys[place i] = xs[i])
    (hkeeps : ∀ i j, i < j → p xs[i] = true → p xs[j] = true → place i < place j) :
    ys.filter p = xs.filter p := by
  have hplaces : ((List.finRange xs.length).filter fun i => p xs[i]).map place =
      (List.finRange ys.length).filter fun i => p ys[i] := by
    -- Both are ascending lists of the places of `ys` that are kept.
    refine List.Pairwise.eq_of_mem_iff (r := (· < ·)) ?_ ?_ fun i => ?_
    · rw [List.pairwise_map]
      refine ((List.sortedLT_finRange _).pairwise.filter _).imp_of_mem fun {i j} hi hj hlt => ?_
      exact hkeeps i j hlt (List.mem_filter.mp hi).2 (List.mem_filter.mp hj).2
    · exact (List.sortedLT_finRange _).pairwise.filter _
    · simp only [List.mem_map, List.mem_filter, List.mem_finRange, true_and]
      constructor
      · rintro ⟨j, hj, rfl⟩
        rwa [hplace]
      · intro hi
        obtain ⟨j, rfl⟩ := place.surjective i
        rw [hplace] at hi
        exact ⟨j, hi, rfl⟩
  calc ys.filter p
      = ((List.finRange ys.length).filter fun i => p ys[i]).map fun i => ys[i] :=
        filter_eq_map_finRange ys p
    _ = ((List.finRange xs.length).filter fun i => p xs[i]).map fun i => ys[place i] := by
        rw [← hplaces, List.map_map]
        rfl
    _ = ((List.finRange xs.length).filter fun i => p xs[i]).map fun i => xs[i] :=
        List.map_congr_left fun i _ => hplace i
    _ = xs.filter p := (filter_eq_map_finRange xs p).symm

end

/-- Headers that are reordered have those of a name in the same order. -/
theorem Reordered.named_eq {headers headers' : List (String × String)}
    (h : Reordered headers headers') (name : String) :
    named headers' name = named headers name := by
  obtain ⟨place, hplace, hkeeps⟩ := h
  refine filter_eq_of_place place hplace fun i j hlt hi hj => ?_
  -- Headers of the name have one name.
  rw [decide_eq_true_iff] at hi hj
  exact hkeeps i j hlt (hi.trans hj.symm)

theorem Reordered.findInHeader_eq {headers' : List (String × String)}
    (h : Reordered r.headers headers') (name : String) :
    ({ r with headers := headers' } : Response).findInHeader name = r.findInHeader name := by
  rw [findInHeader, findInHeader, headerValues_eq, headerValues_eq, h.named_eq]

end ApiCheck.Response
