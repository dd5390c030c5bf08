import ApiCheck.Proofs.Template.Scan

/-!
# Rendering

A text is `Whole` if, its blank ends ignored, it is one reference from its first character to its
last.  These are the texts that have a key (`key?_eq_some_iff_whole`), and such a text has no other
reference (`placeholders_of_key?`).

`fill?` puts a text together from what stands between its references and from what is shown in their
places.  It cuts the text at the places of its references, which never fails
(`fill?_placeholders`).  Rendering gives what `fill?` gives if all references have values, and
otherwise the name of the first that has none; the names are looked up in the order of the text, up to
that one (`render_references`).
-/

namespace ApiCheck.Template

/-! ### Texts that are one reference -/

/-- The text, without its blank ends, is one reference to `name`. -/
def Whole (s name : String) : Prop :=
  placeholders (Text.trimmed s) = [⟨name, 0, Text.utf8Size (Text.trimmed s).toList⟩]

/-- The texts that have a key are those that are one reference. -/
theorem key?_eq_some_iff_whole {s name : String} : key? s = some name ↔ Whole s name := by
  have htoList : (Text.trimmed s).toList = Text.trim s.toList := String.toList_ofList
  rw [Whole, placeholders, htoList]
  constructor
  · intro h
    obtain ⟨inner, hinner, rfl⟩ := key?_eq_some_iff.mp h
    rw [hinner.source, pieces_source hinner.not_closes, Piece.ofInner, if_neg hinner.not_blank]
    show [(⟨nameOf inner, 0, 0 + Text.utf8Size _⟩ : Placeholder)] = _
    rw [Nat.zero_add]
  · intro h
    obtain ⟨before, inner, after, hstands⟩ :=
      (scans_placeholdersFrom 0 (Text.trim s.toList)).standsIn _ (h ▸ List.mem_singleton_self _)
    obtain ⟨hname, hstart, hstop⟩ := Placeholder.mk.inj hstands.eq_mk
    -- The reference takes up all bytes, so nothing stands before it or behind it.
    have hsize := congrArg Text.utf8Size hstands.eq_append
    rw [Text.utf8Size_append] at hsize
    rw [behind] at hstop
    have hbefore : before = [] := Text.utf8Size_eq_zero_iff.mp (by omega)
    have hafter : after = [] := Text.utf8Size_eq_zero_iff.mp (by omega)
    have hsource : Text.trim s.toList = (Piece.reference inner).source := by
      rw [hstands.eq_append, hbefore, hafter, List.nil_append, List.append_nil]
    exact key?_eq_some_iff.mpr
      ⟨inner, ⟨hsource, hstands.not_closes, hstands.not_blank⟩, hname.symm⟩

/-- No braces open in blanks, even if a brace follows them. -/
theorem not_opens_of_blank {cs : List Char} (h : ∀ c ∈ cs, Text.isBlank c = true) :
    ¬ Opens (cs ++ ['{']) := by
  intro hopens
  have hbrace : '{' ∉ cs := fun hmem => absurd (h _ hmem) (by decide)
  have hcount : List.count '{' ['{', '{'] ≤ List.count '{' (cs ++ ['{']) :=
    hopens.sublist.count_le '{'
  rw [List.count_append, List.count_eq_zero_of_not_mem hbrace] at hcount
  exact absurd hcount (by decide)

/-- A text that has a key has one reference, which has this name. -/
theorem placeholders_of_key? {s name : String} (h : key? s = some name) :
    ∃ start stop, placeholders s = [⟨name, start, stop⟩] := by
  obtain ⟨inner, hinner, rfl⟩ := key?_eq_some_iff.mp h
  obtain ⟨front, back, heq, hfront, hback⟩ := Text.exists_eq_append_trim s.toList
  rw [hinner.source, List.append_assoc] at heq
  have hopens : ¬ Opens (front ++ ((Piece.reference inner).source ++ back).take 1) :=
    not_opens_of_blank hfront
  have hopens' : ¬ Opens back := fun hopens =>
    not_opens_of_blank hback (hopens.trans (List.prefix_append back _).isInfix)
  have hpieces : pieces s.toList =
      front.map (fun c => .literal [c]) ++ Piece.reference inner :: pieces back := by
    rw [heq, pieces_append hopens, pieces_source_append hinner.not_closes, Piece.ofInner,
      if_neg hinner.not_blank]
  refine ⟨0 + Text.utf8Size front,
    0 + Text.utf8Size front + Text.utf8Size (Piece.reference inner).source, ?_⟩
  rw [placeholders, hpieces, placeholdersFrom_literals, placeholdersFrom,
    placeholdersFrom_of_not_opens hopens']

/-- A text without references has no key. -/
theorem key?_of_placeholders_eq_nil {s : String} (h : placeholders s = []) : key? s = none := by
  cases hkey : key? s with
  | none => rfl
  | some name =>
    obtain ⟨start, stop, hone⟩ := placeholders_of_key? hkey
    rw [h] at hone
    exact nomatch hone

/-! ### Filling in -/

/-- The text from a place on, in which something is shown for each of its references. -/
def fill? (shown : String → List Char) (cs : List Char) (last : Nat) :
    List Placeholder → Option (List Char)
  | [] => Text.slice? last (Text.utf8Size cs) cs
  | p :: rest =>
    (Text.slice? last p.start cs).bind fun gap =>
      (fill? shown cs p.stop rest).map fun filled => gap ++ shown p.name ++ filled

/-- What is shown for a piece of a text. -/
def Piece.filled (shown : String → List Char) : Piece → List Char
  | .literal cs => cs
  | .reference inner => shown (nameOf inner)

section

variable (shown : String → List Char)

/-- Filling in goes piece by piece; `gap` is what was passed over since the last reference. -/
theorem fill?_placeholdersFrom (ps : List Piece) (before gap : List Char) :
    fill? shown (before ++ gap ++ ps.flatMap Piece.source) (Text.utf8Size before)
      (placeholdersFrom (Text.utf8Size (before ++ gap)) ps) =
      some (gap ++ ps.flatMap (Piece.filled shown)) := by
  induction ps generalizing before gap with
  | nil =>
    rw [placeholdersFrom, fill?, List.flatMap_nil, List.flatMap_nil, List.append_nil,
      List.append_nil, Text.slice?_eq_some_iff]
    exact ⟨before, [], (List.append_nil _).symm, rfl, rfl⟩
  | cons piece ps ih =>
    have hstop : Text.utf8Size (before ++ gap) + Text.utf8Size piece.source =
        Text.utf8Size (before ++ gap ++ piece.source) := (Text.utf8Size_append _ _).symm
    cases piece with
    | literal cs =>
      have hlater := ih before (gap ++ cs)
      simp only [placeholdersFrom, hstop]
      simpa only [List.flatMap_cons, Piece.source, Piece.filled, List.append_assoc] using hlater
    | reference inner =>
      have hgap : Text.slice? (Text.utf8Size before) (Text.utf8Size (before ++ gap))
          (before ++ gap ++ (Piece.reference inner :: ps).flatMap Piece.source) = some gap :=
        Text.slice?_eq_some_iff.mpr ⟨before, _, rfl, rfl, rfl⟩
      have hlater := ih (before ++ gap ++ (Piece.reference inner).source) []
      rw [List.append_nil, List.nil_append, List.append_assoc (before ++ gap)] at hlater
      simp only [placeholdersFrom, hstop, fill?]
      rw [hgap, Option.bind_some, List.flatMap_cons, hlater, Option.map_some, List.flatMap_cons,
        Piece.filled, List.append_assoc]

/-- A text can be cut at the places of its references. -/
theorem fill?_placeholders (s : String) :
    fill? shown s.toList 0 (placeholders s) =
      some ((pieces s.toList).flatMap (Piece.filled shown)) := by
  have hfill := fill?_placeholdersFrom shown (pieces s.toList) [] []
  rwa [source_pieces] at hfill

end

/-! ### Looking up -/

/-- What is shown for a name is the text of its value. -/
def shownBy (lookup : String → Option Operand) (name : String) : List Char :=
  (lookup name).elim [] fun value => value.text.toList

section

variable {lookup : String → Option Operand} {start : Nat} {ps : List Piece}

/-- If all references have values, all of them are looked up and replaced. -/
theorem renderPieces_of_found
    (h : ∀ p ∈ placeholdersFrom start ps, (lookup p.name).isSome = true) :
    renderPieces lookup ps = ((placeholdersFrom start ps).map Placeholder.name,
      .ok (ps.flatMap (Piece.filled (shownBy lookup)))) := by
  induction ps generalizing start with
  | nil => rfl
  | cons piece ps ih =>
    cases piece with
    | literal cs =>
      rw [renderPieces, ih h]
      rfl
    | reference inner =>
      obtain ⟨hfirst, hlater⟩ := List.forall_mem_cons.mp h
      obtain ⟨value, hvalue⟩ := Option.isSome_iff_exists.mp hfirst
      have hvalue' : lookup (nameOf inner) = some value := hvalue
      have hshown : shownBy lookup (nameOf inner) = value.text.toList := by rw [shownBy, hvalue']; rfl
      rw [List.flatMap_cons, Piece.filled, hshown]
      simp only [renderPieces, hvalue', ih hlater]
      rfl

/-- References are looked up until one has no value. -/
theorem renderPieces_of_missing {p : Placeholder} {earlier later : List Placeholder}
    (hsplit : placeholdersFrom start ps = earlier ++ p :: later)
    (hfound : ∀ q ∈ earlier, (lookup q.name).isSome = true) (hmissing : lookup p.name = none) :
    renderPieces lookup ps = ((earlier ++ [p]).map Placeholder.name, .error p.name) := by
  induction ps generalizing start earlier with
  | nil => exact absurd hsplit.symm (by simp [placeholdersFrom])
  | cons piece ps ih =>
    cases piece with
    | literal cs =>
      rw [renderPieces, ih hsplit hfound]
      rfl
    | reference inner =>
      cases earlier with
      | nil =>
        obtain ⟨rfl, -⟩ := List.cons.inj hsplit
        have hmissing' : lookup (nameOf inner) = none := hmissing
        simp only [renderPieces, hmissing']
        rfl
      | cons q earlier =>
        obtain ⟨hq, hlater⟩ := List.cons.inj hsplit
        obtain ⟨hfirst, hfound'⟩ := List.forall_mem_cons.mp hfound
        obtain ⟨value, hvalue⟩ := Option.isSome_iff_exists.mp hfirst
        have hname : q.name = nameOf inner := by rw [← hq]
        rw [hname] at hvalue
        simp only [renderPieces, hvalue, ih hlater hfound', List.cons_append, List.map_cons, hname]
        rfl

end

/-- Either all references have values, or one is the first that has none. -/
theorem all_found_or_first_missing (lookup : String → Option Operand) (found : List Placeholder) :
    (∀ p ∈ found, (lookup p.name).isSome = true) ∨
      ∃ earlier p later, found = earlier ++ p :: later ∧
        (∀ q ∈ earlier, (lookup q.name).isSome = true) ∧ lookup p.name = none := by
  cases hfind : found.find? fun p => (lookup p.name).isNone with
  | none =>
    left
    intro p hp
    have hsome := List.find?_eq_none.mp hfind p hp
    exact Option.isSome_iff_ne_none.mpr fun hnone => hsome (Option.isNone_iff_eq_none.mpr hnone)
  | some p =>
    right
    obtain ⟨hp, earlier, later, hsplit, hearlier⟩ := List.find?_eq_some_iff_append.mp hfind
    refine ⟨earlier, p, later, hsplit, fun q hq => ?_, Option.isNone_iff_eq_none.mp hp⟩
    have hsome := hearlier q hq
    simpa using hsome

/-! ### The rendered text -/

section

variable {lookup : String → Option Operand} {s : String}

theorem render_of_key? {name : String} (h : key? s = some name) :
    render lookup s = ⟨[name], (lookup name).elim (.error name) .ok⟩ := by
  rw [render, h]

theorem render_of_no_key (h : key? s = none) :
    render lookup s = ⟨(renderPieces lookup (pieces s.toList)).1,
      (renderPieces lookup (pieces s.toList)).2.map fun cs => .ofString (String.ofList cs)⟩ := by
  rw [render, h]

theorem render_of_found (hkey : key? s = none)
    (h : ∀ p ∈ placeholders s, (lookup p.name).isSome = true) :
    render lookup s = ⟨(placeholders s).map Placeholder.name,
      .ok (.ofString (String.ofList ((pieces s.toList).flatMap (Piece.filled (shownBy lookup)))))⟩ := by
  rw [render_of_no_key hkey, renderPieces_of_found h]
  rfl

theorem render_of_missing (hkey : key? s = none) {p : Placeholder}
    {earlier later : List Placeholder} (hsplit : placeholders s = earlier ++ p :: later)
    (hfound : ∀ q ∈ earlier, (lookup q.name).isSome = true) (hmissing : lookup p.name = none) :
    render lookup s = ⟨(earlier ++ [p]).map Placeholder.name, .error p.name⟩ := by
  rw [render_of_no_key hkey, renderPieces_of_missing hsplit hfound hmissing]
  rfl

/-- A text without references is rendered as it is. -/
theorem render_of_placeholders_eq_nil (h : placeholders s = []) :
    render lookup s = ⟨[], .ok (.ofString s)⟩ := by
  have hfound : ∀ p ∈ placeholders s, (lookup p.name).isSome = true := by
    rw [h]
    exact fun p hp => absurd hp List.not_mem_nil
  -- Nothing is shown for a reference, so the text is filled with itself.
  have hfill := fill?_placeholders (shownBy lookup) s
  rw [h, fill?, Text.slice?_eq_some_iff] at hfill
  obtain ⟨before, after, heq, hbefore, hstop⟩ := hfill
  obtain rfl := Text.utf8Size_eq_zero_iff.mp hbefore
  have hsize := congrArg Text.utf8Size heq
  rw [Text.utf8Size_append, hstop] at hsize
  obtain rfl := Text.utf8Size_eq_zero_iff.mp (show Text.utf8Size after = 0 by omega)
  rw [List.nil_append, List.append_nil] at heq
  rw [render_of_found (key?_of_placeholders_eq_nil h) hfound, ← heq, h, String.ofList_toList]
  rfl

/-- Rendering a text that is not one reference succeeds exactly if all its references have values. -/
theorem exists_render_eq_ok_iff (hkey : key? s = none) :
    (∃ value, (render lookup s).result = .ok value) ↔
      ∀ p ∈ placeholders s, (lookup p.name).isSome = true := by
  rcases all_found_or_first_missing lookup (placeholders s) with
    hfound | ⟨earlier, p, later, hsplit, hfound, hmissing⟩
  · refine iff_of_true ?_ hfound
    rw [render_of_found hkey hfound]
    exact ⟨_, rfl⟩
  · refine iff_of_false ?_ fun hall => ?_
    · rw [render_of_missing hkey hsplit hfound hmissing]
      exact fun ⟨value, hvalue⟩ => nomatch hvalue
    · have hp : p ∈ placeholders s := hsplit ▸ List.mem_append_right _ List.mem_cons_self
      exact absurd (hall p hp) (by simp [hmissing])

end

/-- **Rendering a text.**  A text that is one reference is rendered as its value, which is looked up
once.  In any other text all references that it holds are replaced by the texts of their values, and
what stands between them is kept; this succeeds exactly if all of them have values, which are looked up
in their order.  Otherwise the first of them that has none is the error, and the last that is looked
up.  A text without references stays as it is.  The text can be cut at the places of its references,
whatever is shown for them. -/
theorem render_references (lookup : String → Option Operand) (s : String) :
    (∀ name, Whole s name →
      render lookup s = ⟨[name], (lookup name).elim (.error name) .ok⟩) ∧
    ((∀ name, ¬ Whole s name) →
      ((∃ value, (render lookup s).result = .ok value) ↔
        ∀ p ∈ placeholders s, (lookup p.name).isSome = true) ∧
      ((∀ p ∈ placeholders s, (lookup p.name).isSome = true) →
        ∃ filled, fill? (shownBy lookup) s.toList 0 (placeholders s) = some filled ∧
          render lookup s = ⟨(placeholders s).map Placeholder.name,
            .ok (.ofString (String.ofList filled))⟩) ∧
      (∀ earlier p later, placeholders s = earlier ++ p :: later →
        (∀ q ∈ earlier, (lookup q.name).isSome = true) → lookup p.name = none →
        render lookup s = ⟨(earlier ++ [p]).map Placeholder.name, .error p.name⟩)) ∧
    (placeholders s = [] → render lookup s = ⟨[], .ok (.ofString s)⟩) ∧
    (∀ shown, ∃ filled, fill? shown s.toList 0 (placeholders s) = some filled) := by
  refine ⟨fun name hwhole => render_of_key? (key?_eq_some_iff_whole.mpr hwhole), fun hnot => ?_,
    render_of_placeholders_eq_nil, fun shown => ⟨_, fill?_placeholders shown s⟩⟩
  have hkey : key? s = none :=
    Option.eq_none_iff_forall_ne_some.mpr fun name h => hnot name (key?_eq_some_iff_whole.mp h)
  refine ⟨exists_render_eq_ok_iff hkey, fun hfound => ?_, fun earlier p later => ?_⟩
  · exact ⟨_, fill?_placeholders (shownBy lookup) s, render_of_found hkey hfound⟩
  · exact render_of_missing hkey

end ApiCheck.Template
