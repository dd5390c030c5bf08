import ApiCheck.Text.Blank
import ApiCheck.Text.Digit
import Mathlib.Data.List.DropRight
import Mathlib.Data.List.TakeWhile

/-!
# Trimmed texts

A text is `Trimmed` if it neither starts nor ends with a blank character.  `trim` leaves such a text
as it is (`Trimmed.trim_eq`), always gives one (`trimmed_trim`), and does not look at blank
characters that are put around a text (`trim_pad`).  What it leaves stands in the text between two
blank ends (`exists_eq_append_trim`), and is empty exactly for blank texts (`trim_eq_nil_iff`).

No digit of any script is blank (`isBlank_of_isDecimalDigit`).
-/

namespace ApiCheck.Text

/-! ### Blank characters -/

/-- The codes of the blank characters. -/
def blankCodes : List Nat := [
  0x09, 0x0A, 0x0B, 0x0C, 0x0D, 0x20, 0x85, 0xA0, 0x1680, 0x2000, 0x2001, 0x2002, 0x2003, 0x2004,
  0x2005, 0x2006, 0x2007, 0x2008, 0x2009, 0x200A, 0x2028, 0x2029, 0x202F, 0x205F, 0x3000]

theorem isBlank_iff_mem_blankCodes {c : Char} : isBlank c = true ↔ c.toNat ∈ blankCodes := by
  simp only [isBlank, blankCodes, List.mem_cons, List.not_mem_nil, or_false, Bool.or_eq_true,
    Bool.and_eq_true, decide_eq_true_eq, beq_iff_eq]
  omega

/-- Digits are not blank. -/
theorem isBlank_of_isDecimalDigit {c : Char} (h : isDecimalDigit c = true) : isBlank c = false := by
  have hcodes : ∀ n ∈ blankCodes,
      (decimalZeros.any fun first => first ≤ n && n < first + 10) = false := by decide
  by_contra hblank
  have hmem := isBlank_iff_mem_blankCodes.mp (by simpa using hblank)
  rw [isDecimalDigit, hcodes _ hmem] at h
  exact nomatch h

/-! ### Trimming -/

/-- The text neither starts nor ends with a blank character. -/
structure Trimmed (cs : List Char) : Prop where
  head : ∀ c ∈ cs.head?, isBlank c = false
  last : ∀ c ∈ cs.getLast?, isBlank c = false

/-- A text without blank characters has no blank ends. -/
theorem trimmed_of_not_blank {cs : List Char} (h : ∀ c ∈ cs, isBlank c = false) : Trimmed cs :=
  ⟨fun c hc => h c (List.mem_of_mem_head? hc), fun c hc => h c (List.mem_of_getLast? hc)⟩

/-- A character that is not blank may stand in front of a trimmed text. -/
theorem Trimmed.cons {c : Char} {cs : List Char} (hc : isBlank c = false) (h : Trimmed cs) :
    Trimmed (c :: cs) := by
  refine ⟨by simpa using hc, ?_⟩
  cases cs with
  | nil => simpa using hc
  | cons d cs => simpa [List.getLast?_cons_cons] using h.last

theorem trimEnd_eq_rdropWhile (cs : List Char) : trimEnd cs = cs.rdropWhile isBlank := rfl

theorem trimStart_eq_self {cs : List Char} (h : ∀ c ∈ cs.head?, isBlank c = false) :
    trimStart cs = cs := by
  cases cs with
  | nil => rfl
  | cons c cs => exact List.dropWhile_cons_of_neg (by simp [h c rfl])

theorem trimEnd_eq_self {cs : List Char} (h : ∀ c ∈ cs.getLast?, isBlank c = false) :
    trimEnd cs = cs := by
  rw [trimEnd_eq_rdropWhile, List.rdropWhile_eq_self_iff]
  intro hne
  simp [h _ (List.getLast?_eq_getLast_of_ne_nil hne)]

/-- A trimmed text stays as it is. -/
theorem Trimmed.trim_eq {cs : List Char} (h : Trimmed cs) : trim cs = cs := by
  rw [trim, trimStart_eq_self h.head, trimEnd_eq_self h.last]

theorem head?_trimStart (cs : List Char) : ∀ c ∈ (trimStart cs).head?, isBlank c = false := by
  intro c hc
  have h := List.head?_dropWhile_not isBlank cs
  rw [trimStart] at hc
  rw [Option.mem_def.mp hc] at h
  simpa using h

/-- Trimming gives a trimmed text. -/
theorem trimmed_trim (cs : List Char) : Trimmed (trim cs) := by
  refine ⟨fun c hc => ?_, fun c hc => ?_⟩
  · -- The end of a text is dropped after its start, which stays where it is.
    obtain ⟨dropped, hdropped⟩ := List.rdropWhile_prefix isBlank (trimStart cs)
    refine head?_trimStart cs c ?_
    rw [← hdropped]
    exact List.mem_head?_append_of_mem_head? hc
  · rw [trim, trimEnd_eq_rdropWhile] at hc
    have hne : (trimStart cs).rdropWhile isBlank ≠ [] := by
      intro h
      rw [h] at hc
      exact nomatch hc
    rw [List.getLast?_eq_getLast_of_ne_nil hne, Option.mem_some_iff] at hc
    subst hc
    simpa using List.rdropWhile_last_not isBlank (trimStart cs) hne

theorem trimEnd_append_of_blank {cs after : List Char} (h : ∀ c ∈ after, isBlank c = true) :
    trimEnd (cs ++ after) = trimEnd cs := by
  rw [trimEnd, trimEnd, List.reverse_append, List.dropWhile_append_of_pos (by simpa using h)]

/-- Blank characters around a text do not change what trimming makes of it. -/
theorem trim_pad {before cs after : List Char} (hbefore : ∀ c ∈ before, isBlank c = true)
    (hafter : ∀ c ∈ after, isBlank c = true) : trim (before ++ cs ++ after) = trim cs := by
  rw [List.append_assoc, trim, trim, trimStart, List.dropWhile_append_of_pos hbefore,
    List.dropWhile_append]
  split
  · next hblank =>
    rw [trimStart, List.isEmpty_iff.mp hblank, List.dropWhile_eq_nil_iff.mpr hafter]
  · exact trimEnd_append_of_blank hafter

/-- A text is what trimming leaves of it between two blank ends. -/
theorem exists_eq_append_trim (cs : List Char) :
    ∃ before after, cs = before ++ trim cs ++ after ∧ (∀ c ∈ before, isBlank c = true) ∧
      ∀ c ∈ after, isBlank c = true := by
  have hstart : cs = cs.takeWhile isBlank ++ trimStart cs :=
    List.takeWhile_append_dropWhile.symm
  have hend : trimStart cs =
      trim cs ++ ((trimStart cs).reverse.takeWhile isBlank).reverse := by
    rw [trim, trimEnd, ← List.reverse_append, List.takeWhile_append_dropWhile, List.reverse_reverse]
  refine ⟨cs.takeWhile isBlank, ((trimStart cs).reverse.takeWhile isBlank).reverse, ?_,
    fun c hc => List.mem_takeWhile_imp hc, fun c hc => ?_⟩
  · rw [List.append_assoc, ← hend]
    exact hstart
  · exact List.mem_takeWhile_imp (List.mem_reverse.mp hc)

/-- Trimming leaves what stands between the blank ends. -/
theorem trim_infix (cs : List Char) : trim cs <:+: cs := by
  obtain ⟨before, after, heq, -, -⟩ := exists_eq_append_trim cs
  exact ⟨before, after, heq.symm⟩

/-- Trimming leaves nothing of a blank text, and of no other. -/
theorem trim_eq_nil_iff {cs : List Char} : trim cs = [] ↔ ∀ c ∈ cs, isBlank c = true := by
  rw [trim, trimEnd_eq_rdropWhile, List.rdropWhile_eq_nil_iff]
  refine ⟨fun h => ?_, fun h => ?_⟩
  · -- What is left at the start would begin with a character that is not blank.
    have hnil : trimStart cs = [] := by
      cases hstart : trimStart cs with
      | nil => rfl
      | cons c rest =>
        have hhead : isBlank c = false := head?_trimStart cs c (by rw [hstart]; rfl)
        exact absurd (h c (by rw [hstart]; exact List.mem_cons_self)) (by simp [hhead])
    exact List.dropWhile_eq_nil_iff.mp hnil
  · rw [trimStart, List.dropWhile_eq_nil_iff.mpr h]
    exact nofun

theorem isBlankText_iff {s : String} : isBlankText s = true ↔ trim s.toList = [] := by
  rw [isBlankText, List.all_eq_true, trim_eq_nil_iff]

end ApiCheck.Text
