import ApiCheck.Proofs.Template
import ApiCheck.Proofs.Text.Place

/-!
# Scanning for references

A text can be scanned for references mark by mark: two opening braces are looked for, the leftmost
ones from where the scan stands, then the first two closing braces behind them, and the scan goes on
behind those.  A mark with a name between its braces is found, one with blanks only is passed over,
and the scan ends where no mark is left (`Scans`).

The references of a text are exactly those that this scan finds (`placeholdersFrom_eq_iff`).  So they
come in the order of the text and do not overlap, each begins and ends with its braces between two
characters of the text, and its name is one that a reference can have (`placeholders_scan`).
-/

namespace ApiCheck.Template

/-- Two opening braces stand in the text one behind the other. -/
def Opens (cs : List Char) : Prop := ['{', '{'] <:+: cs

/-! ### Marks -/

/-- The first mark of a text: its leftmost opening braces, and the first closing braces after them. -/
structure FirstMark (cs before inner after : List Char) : Prop where
  opens : Text.Leftmost ['{', '{'] cs before (inner ++ ['}', '}'] ++ after)
  closes : Text.Leftmost ['}', '}'] (inner ++ ['}', '}'] ++ after) inner after

namespace FirstMark

variable {cs before inner after : List Char}

theorem eq_append (h : FirstMark cs before inner after) :
    cs = before ++ (Piece.reference inner).source ++ after := by
  rw [h.opens.eq_append]
  simp [Piece.source]

theorem not_opens (h : FirstMark cs before inner after) : ¬ Opens (before ++ ['{']) :=
  ((Text.leftmost_iff (List.cons_ne_nil _ _)).mp h.opens).2

theorem not_closes (h : FirstMark cs before inner after) : ¬ Closes (inner ++ ['}']) :=
  ((Text.leftmost_iff (List.cons_ne_nil _ _)).mp h.closes).2

theorem length_after (h : FirstMark cs before inner after) : after.length < cs.length := by
  rw [h.eq_append]
  simp only [Piece.source, List.length_append, List.length_cons]
  omega

end FirstMark

/-! ### Pieces of a text in which no braces open -/

theorem Opens.cons {c : Char} {cs : List Char} (h : Opens cs) : Opens (c :: cs) :=
  List.infix_cons h

/-- Characters in front of which no braces open are cut off one by one. -/
theorem pieces_append {before rest : List Char} (h : ¬ Opens (before ++ rest.take 1)) :
    pieces (before ++ rest) = before.map (fun c => .literal [c]) ++ pieces rest := by
  induction before with
  | nil => rfl
  | cons c before ih =>
    have hopen : ∀ rest', c = '{' → before ++ rest = '{' :: rest' → False := by
      rintro rest' rfl heq
      apply h
      cases before with
      | nil =>
        rw [List.nil_append] at heq
        exact ⟨[], [], by rw [heq]; rfl⟩
      | cons c' before =>
        obtain rfl : c' = '{' := (List.cons.inj heq).1
        exact ⟨[], before ++ rest.take 1, rfl⟩
    have hbefore : ¬ Opens (before ++ rest.take 1) := fun hopens => h hopens.cons
    rw [List.cons_append, pieces.eq_3 _ _ hopen, ih hbefore, List.map_cons, List.cons_append]

/-- A text in which no braces open is cut into its characters. -/
theorem pieces_of_not_opens {cs : List Char} (h : ¬ Opens cs) :
    pieces cs = cs.map fun c => .literal [c] := by
  have hbefore : ¬ Opens (cs ++ [].take 1) := by rwa [List.take_nil, List.append_nil]
  have happend := pieces_append hbefore
  rwa [List.append_nil, pieces_eq_nil_iff.mpr rfl, List.append_nil] at happend

/-- Braces that open and never close are cut off with all that follows them. -/
theorem pieces_of_not_closes {rest : List Char} (h : ¬ Closes rest) :
    pieces ('{' :: '{' :: rest) = [.literal ('{' :: '{' :: rest)] := by
  rw [pieces]
  split
  · rfl
  · next inner after hsplit =>
    have hcloses : Closes rest := ⟨inner, after, by rw [splitAtClose_eq hsplit]; simp⟩
    exact absurd hcloses h

/-- In front of its first mark a text is cut into its characters. -/
theorem FirstMark.pieces_eq {cs before inner after : List Char}
    (h : FirstMark cs before inner after) :
    pieces cs = before.map (fun c => .literal [c]) ++ Piece.ofInner inner :: pieces after := by
  have hbefore : ¬ Opens (before ++ ((Piece.reference inner).source ++ after).take 1) := h.not_opens
  rw [h.eq_append, List.append_assoc, pieces_append hbefore, pieces_source_append h.not_closes]

/-! ### The references that pieces hold -/

theorem placeholdersFrom_literals (start : Nat) (cs : List Char) (ps : List Piece) :
    placeholdersFrom start (cs.map (fun c => .literal [c]) ++ ps) =
      placeholdersFrom (start + Text.utf8Size cs) ps := by
  induction cs generalizing start with
  | nil => rfl
  | cons c cs ih =>
    show placeholdersFrom (start + Text.utf8Size [c])
      (cs.map (fun c => .literal [c]) ++ ps) = _
    rw [ih, Text.utf8Size_cons, Text.utf8Size_cons, Text.utf8Size_nil, Nat.add_zero, Nat.add_assoc]

/-- The place behind a mark, in a text that starts at a place. -/
def behind (start : Nat) (before inner : List Char) : Nat :=
  start + Text.utf8Size (before ++ (Piece.reference inner).source)

section

variable {start : Nat} {cs before inner after : List Char}

/-- A mark with blanks only is passed over. -/
theorem FirstMark.placeholdersFrom_of_blank (h : FirstMark cs before inner after)
    (hblank : Text.trim inner = []) :
    placeholdersFrom start (pieces cs) =
      placeholdersFrom (behind start before inner) (pieces after) := by
  rw [h.pieces_eq, placeholdersFrom_literals, Piece.ofInner, if_pos hblank, behind,
    Text.utf8Size_append, ← Nat.add_assoc]
  rfl

/-- A mark with a name is found. -/
theorem FirstMark.placeholdersFrom_of_name (h : FirstMark cs before inner after)
    (hname : Text.trim inner ≠ []) :
    placeholdersFrom start (pieces cs) =
      ⟨nameOf inner, start + Text.utf8Size before, behind start before inner⟩ ::
        placeholdersFrom (behind start before inner) (pieces after) := by
  rw [h.pieces_eq, placeholdersFrom_literals, Piece.ofInner, if_neg hname, behind,
    Text.utf8Size_append, ← Nat.add_assoc]
  rfl

/-- Where no braces open nothing is found. -/
theorem placeholdersFrom_of_not_opens (h : ¬ Opens cs) :
    placeholdersFrom start (pieces cs) = [] := by
  have hliterals := placeholdersFrom_literals start cs []
  rw [List.append_nil] at hliterals
  rw [pieces_of_not_opens h, hliterals]
  rfl

/-- In a text without a mark nothing is found. -/
theorem placeholdersFrom_of_no_mark
    (h : ∀ before inner after, ¬ FirstMark cs before inner after) :
    placeholdersFrom start (pieces cs) = [] := by
  by_cases hopens : Opens cs
  · obtain ⟨before, rest, hleft⟩ := Text.exists_leftmost hopens
    have hfirst := ((Text.leftmost_iff (List.cons_ne_nil _ _)).mp hleft).2
    by_cases hcloses : Closes rest
    · -- Braces that open and close make a mark.
      obtain ⟨inner, after, hright⟩ := Text.exists_leftmost hcloses
      rw [hright.eq_append] at hleft
      have hright' := hright
      rw [hright.eq_append] at hright'
      exact absurd ⟨hleft, hright'⟩ (h before inner after)
    · have hcs : cs = before ++ '{' :: '{' :: rest := by
        rw [hleft.eq_append]
        simp
      have hbefore : ¬ Opens (before ++ ('{' :: '{' :: rest).take 1) := hfirst
      rw [hcs, pieces_append hbefore, placeholdersFrom_literals, pieces_of_not_closes hcloses]
      rfl
  · exact placeholdersFrom_of_not_opens hopens

end

/-! ### The scan -/

/-- Scanning a text that starts at a place finds references, mark by mark. -/
inductive Scans : (start : Nat) → (cs : List Char) → (found : List Placeholder) → Prop
  /-- No mark is left. -/
  | done {start : Nat} {cs : List Char}
      (h : ∀ before inner after, ¬ FirstMark cs before inner after) : Scans start cs []
  /-- A mark has no name and is passed over. -/
  | blank {start : Nat} {cs before inner after : List Char} {found : List Placeholder}
      (mark : FirstMark cs before inner after) (hblank : Text.trim inner = [])
      (later : Scans (behind start before inner) after found) : Scans start cs found
  /-- A mark is found under its name. -/
  | named {start : Nat} {cs before inner after : List Char} {found : List Placeholder}
      (mark : FirstMark cs before inner after) (hname : Text.trim inner ≠ [])
      (later : Scans (behind start before inner) after found) :
      Scans start cs
        (⟨nameOf inner, start + Text.utf8Size before, behind start before inner⟩ :: found)

/-- The references that a text holds are found by scanning it. -/
theorem scans_placeholdersFrom (start : Nat) (cs : List Char) :
    Scans start cs (placeholdersFrom start (pieces cs)) := by
  suffices h : ∀ (n : Nat) (start : Nat) (cs : List Char), cs.length = n →
      Scans start cs (placeholdersFrom start (pieces cs)) from h _ start cs rfl
  intro n
  induction n using Nat.strong_induction_on with
  | _ n ih =>
    rintro start cs rfl
    by_cases hmark : ∃ before inner after, FirstMark cs before inner after
    · obtain ⟨before, inner, after, mark⟩ := hmark
      have hlater := ih after.length mark.length_after (behind start before inner) after rfl
      by_cases hblank : Text.trim inner = []
      · rw [mark.placeholdersFrom_of_blank hblank]
        exact .blank mark hblank hlater
      · rw [mark.placeholdersFrom_of_name hblank]
        exact .named mark hblank hlater
    · have hnone : ∀ before inner after, ¬ FirstMark cs before inner after :=
        fun before inner after mark => hmark ⟨before, inner, after, mark⟩
      rw [placeholdersFrom_of_no_mark hnone]
      exact .done hnone

/-- The references that a text holds are those that scanning it finds. -/
theorem placeholdersFrom_eq_iff {start : Nat} {cs : List Char} {found : List Placeholder} :
    placeholdersFrom start (pieces cs) = found ↔ Scans start cs found := by
  constructor
  · rintro rfl
    exact scans_placeholdersFrom start cs
  · intro h
    induction h with
    | done h => exact placeholdersFrom_of_no_mark h
    | blank mark hblank _ ih => rw [mark.placeholdersFrom_of_blank hblank, ih]
    | named mark hname _ ih => rw [mark.placeholdersFrom_of_name hname, ih]

/-! ### What the scan finds -/

/-- The reference stands in a text that starts at a place: its braces enclose a name and close at its
end only, and its places are those before and behind its braces. -/
structure Placeholder.StandsIn (p : Placeholder) (start : Nat)
    (cs before inner after : List Char) : Prop where
  eq_append : cs = before ++ (Piece.reference inner).source ++ after
  eq_mk : p = ⟨nameOf inner, start + Text.utf8Size before, behind start before inner⟩
  not_closes : ¬ Closes (inner ++ ['}'])
  not_blank : Text.trim inner ≠ []

namespace Placeholder

variable {p : Placeholder} {start : Nat} {cs before inner after : List Char}

/-- A reference behind a mark stands in the whole text as well. -/
theorem StandsIn.behind_mark {before' inner' : List Char}
    (h : p.StandsIn (behind start before' inner') cs before inner after) :
    p.StandsIn start (before' ++ (Piece.reference inner').source ++ cs)
      (before' ++ (Piece.reference inner').source ++ before) inner after := by
  refine ⟨?_, ?_, h.not_closes, h.not_blank⟩
  · rw [h.eq_append]
    simp only [List.append_assoc]
  · rw [h.eq_mk]
    simp only [behind, Text.utf8Size_append, Nat.add_assoc]

theorem StandsIn.start_lt_stop (h : p.StandsIn start cs before inner after) :
    p.start < p.stop := by
  have hbrace : 0 < '{'.utf8Size := Char.utf8Size_pos _
  rw [h.eq_mk]
  simp only [behind, Piece.source, Text.utf8Size_append, Text.utf8Size_cons]
  omega

/-- Between its places a text has the braces of the reference, with its name in them. -/
theorem StandsIn.slice?_eq (h : p.StandsIn 0 cs before inner after) :
    Text.slice? p.start p.stop cs = some (Piece.reference inner).source := by
  rw [Text.slice?_eq_some_iff, h.eq_mk]
  exact ⟨before, after, h.eq_append, (Nat.zero_add _).symm, (Nat.zero_add _).symm⟩

end Placeholder

theorem FirstMark.standsIn {start : Nat} {cs before inner after : List Char}
    (mark : FirstMark cs before inner after) (hname : Text.trim inner ≠ []) :
    Placeholder.StandsIn
      ⟨nameOf inner, start + Text.utf8Size before, behind start before inner⟩
      start cs before inner after :=
  ⟨mark.eq_append, rfl, mark.not_closes, hname⟩

/-- Everything that is found stands in the text. -/
theorem Scans.standsIn {start : Nat} {cs : List Char} {found : List Placeholder}
    (h : Scans start cs found) :
    ∀ p ∈ found, ∃ before inner after, p.StandsIn start cs before inner after := by
  induction h with
  | done h => exact fun p hp => absurd hp List.not_mem_nil
  | blank mark _ _ ih =>
    intro p hp
    obtain ⟨before, inner, after, hstands⟩ := ih p hp
    rw [mark.eq_append]
    exact ⟨_, inner, after, hstands.behind_mark⟩
  | named mark hname _ ih =>
    intro p hp
    rcases List.mem_cons.mp hp with rfl | hp
    · exact ⟨_, _, _, mark.standsIn hname⟩
    · obtain ⟨before, inner, after, hstands⟩ := ih p hp
      rw [mark.eq_append]
      exact ⟨_, inner, after, hstands.behind_mark⟩

/-- What is found later stands behind what is found before. -/
theorem Scans.pairwise {start : Nat} {cs : List Char} {found : List Placeholder}
    (h : Scans start cs found) : found.Pairwise fun p q => p.stop ≤ q.start := by
  induction h with
  | done h => exact List.Pairwise.nil
  | blank _ _ _ ih => exact ih
  | @named start cs before inner after found _ _ later ih =>
    refine List.pairwise_cons.mpr ⟨fun q hq => ?_, ih⟩
    obtain ⟨before', inner', after', hstands⟩ := later.standsIn q hq
    rw [hstands.eq_mk]
    exact Nat.le_add_right _ _

/-- **The references of a text** are exactly those that scanning it mark by mark finds.  They come in
the order of the text and do not overlap.  Each takes up a part of the text between two of its places,
which begins with two opening and ends with two closing braces; its name is what stands between them
without its blank ends, is not empty and does not hold two closing braces. -/
theorem placeholders_scan (s : String) :
    (∀ found, placeholders s = found ↔ Scans 0 s.toList found) ∧
    (placeholders s).Pairwise (fun p q => p.stop ≤ q.start) ∧
    (∀ p ∈ placeholders s,
      p.start < p.stop ∧ p.stop ≤ Text.utf8Size s.toList ∧
      (∃ inner, Text.slice? p.start p.stop s.toList =
          some (['{', '{'] ++ inner ++ ['}', '}']) ∧ p.name = nameOf inner) ∧
      p.name ≠ "" ∧ Text.Trimmed p.name.toList ∧ ¬ Closes p.name.toList) := by
  have hscan : Scans 0 s.toList (placeholders s) := scans_placeholdersFrom 0 s.toList
  refine ⟨fun found => placeholdersFrom_eq_iff, hscan.pairwise, fun p hp => ?_⟩
  obtain ⟨before, inner, after, hstands⟩ := hscan.standsIn p hp
  have hname : p.name = nameOf inner := by rw [hstands.eq_mk]
  have hstop : p.stop ≤ Text.utf8Size s.toList := by
    have hsize := congrArg Text.utf8Size hstands.eq_append
    rw [Text.utf8Size_append] at hsize
    rw [hstands.eq_mk]
    show 0 + _ ≤ _
    omega
  refine ⟨hstands.start_lt_stop, hstop, ⟨inner, hstands.slice?_eq, hname⟩, ?_⟩
  rw [hname]
  exact ⟨nameOf_ne_empty hstands.not_blank, trimmed_nameOf inner,
    not_closes_nameOf hstands.not_closes⟩

end ApiCheck.Template
