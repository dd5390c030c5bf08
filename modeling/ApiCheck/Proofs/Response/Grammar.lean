import ApiCheck.Proofs.Response.Fault

/-!
# The grammar of paths

Every text divides into tokens from left to right: dots, brackets with what they hold up to the next
closing bracket, and between these runs of other characters that are as long as possible; at the end a
bracket may be left open (`Divides`).  A run spells a key, a bracket the wildcard or an index, or
nothing, and a dot spells nothing that counts (`Token.Spells`).

`findInBody_grammar` states that a path is read exactly if no bracket is left open and each spells a
segment, and then as what its tokens spell; otherwise the leftmost bad bracket is reported, with the
path as it is given.  Dots and the mark of the root only lead and separate.
-/

namespace ApiCheck.Response

/-! ### Tokens -/

/-- A part of a path. -/
inductive Token where
  | dot
  /-- Characters outside brackets, none of them a dot. -/
  | run (cs : List Char)
  /-- A bracket that is closed, with what it holds. -/
  | bracket (inner : List Char)

/-- `Divides cs ts rest`: the characters `cs` are the tokens `ts`, with `rest` in a bracket behind them
that is never closed, if there is one.  A bracket ends at the next closing bracket, and a run where a
character stands that may not stand in it. -/
inductive Divides : List Char → List Token → Option (List Char) → Prop
  | nil : Divides [] [] none
  | unclosed {inner : List Char} (h : ']' ∉ inner) : Divides ('[' :: inner) [] (some inner)
  | dot {cs : List Char} {ts : List Token} {rest : Option (List Char)}
      (later : Divides cs ts rest) : Divides ('.' :: cs) (.dot :: ts) rest
  | bracket {inner cs : List Char} {ts : List Token} {rest : Option (List Char)}
      (h : ']' ∉ inner) (later : Divides cs ts rest) :
      Divides ('[' :: (inner ++ ']' :: cs)) (.bracket inner :: ts) rest
  | run {name cs : List Char} {ts : List Token} {rest : Option (List Char)} (hne : name ≠ [])
      (hname : ∀ c ∈ name, isKeyChar c = true) (hend : ∀ c ∈ cs.head?, isKeyChar c = false)
      (later : Divides cs ts rest) : Divides (name ++ cs) (.run name :: ts) rest

/-- What a token spells: a run a key, a bracket the wildcard or an index that is a word, between
blanks or not, and a dot nothing. -/
inductive Token.Spells : Token → List Segment → Prop
  | dot : Spells .dot []
  | run (cs : List Char) : Spells (.run cs) [.key (String.ofList cs)]
  | wildcard {inner : List Char} (h : Text.trim inner = ['*']) :
      Spells (.bracket inner) [.wildcard]
  | index {inner : List Char} {i : Nat} (h : Unsigned (Text.trim inner) i) (hi : i < 2 ^ 64) :
      Spells (.bracket inner) [.index i]

/-- What tokens spell one after another. -/
def Token.SpellAll (ts : List Token) (ss : List Segment) : Prop :=
  ∃ parts, List.Forall₂ Token.Spells ts parts ∧ ss = parts.flatten

/-- `FirstFault ts rest fault`: the leftmost bracket that spells nothing, or is left open, is at
fault. -/
inductive FirstFault (ts : List Token) (rest : Option (List Char)) : PathError → Prop
  | badIndex {before after : List Token} {inner : List Char}
      (hts : ts = before ++ .bracket inner :: after) (hbefore : ∀ t ∈ before, ∃ ss, t.Spells ss)
      (hbad : ¬ ∃ ss, (Token.bracket inner).Spells ss) :
      FirstFault ts rest (.badIndex (String.ofList (Text.trim inner)))
  | unclosed {inner : List Char} (hrest : rest = some inner) (hts : ∀ t ∈ ts, ∃ ss, t.Spells ss) :
      FirstFault ts rest (.unclosed (String.ofList inner))

/-! ### Brackets -/

theorem splitAtBracket_eq_none_iff {cs : List Char} : splitAtBracket cs = none ↔ ']' ∉ cs := by
  constructor
  · intro hnone hmem
    obtain ⟨inner, after, hcs, hinner⟩ := List.eq_append_cons_of_mem hmem
    rw [hcs, splitAtBracket_append hinner] at hnone
    cases hnone
  · intro h
    cases hsplit : splitAtBracket cs with
    | none => rfl
    | some parts => exact absurd (by simp [splitAtBracket_eq hsplit]) h

/-- A bracket is read as the segment that it spells. -/
theorem ofBracket_eq_ok_iff {inner : List Char} {segment : Segment} :
    Segment.ofBracket inner = .ok segment ↔ (Token.bracket inner).Spells [segment] := by
  have hlimit : ∀ i : Nat, i ≤ Segment.maxIndex ↔ i < 2 ^ 64 := by
    intro i
    unfold Segment.maxIndex
    omega
  unfold Segment.ofBracket
  dsimp only
  split
  · next hstar =>
    constructor
    · intro h
      obtain rfl := Except.ok.inj h
      exact .wildcard hstar
    · rintro (_ | _ | _ | ⟨h, -⟩)
      · rfl
      · -- The wildcard is no number.
        have hread := readUnsigned_eq_ok_iff.mpr ⟨h, le_rfl⟩
        rw [hstar] at hread
        simp [readUnsigned, readDigits, appendDigits, digitValue?] at hread
  · next hstar =>
    split
    · next i hread =>
      obtain ⟨hi, hle⟩ := readUnsigned_eq_ok_iff.mp hread
      constructor
      · intro h
        obtain rfl := Except.ok.inj h
        exact .index hi ((hlimit i).mp hle)
      · rintro (_ | _ | h | ⟨h, hi'⟩)
        · exact absurd h hstar
        · rw [readUnsigned_eq_ok_iff.mpr ⟨h, (hlimit _).mpr hi'⟩] at hread
          rw [Except.ok.inj hread]
    · next hread =>
      constructor
      · intro h
        cases h
      · rintro (_ | _ | h | ⟨h, hi'⟩)
        · exact absurd h hstar
        · rw [readUnsigned_eq_ok_iff.mpr ⟨h, (hlimit _).mpr hi'⟩] at hread
          cases hread

/-- A bracket that spells nothing is reported with what it holds, without its blank ends. -/
theorem ofBracket_of_not_spells {inner : List Char}
    (h : ¬ ∃ ss, (Token.bracket inner).Spells ss) :
    Segment.ofBracket inner = .error (.badIndex (String.ofList (Text.trim inner))) := by
  cases hread : Segment.ofBracket inner with
  | ok segment => exact absurd ⟨_, ofBracket_eq_ok_iff.mp hread⟩ h
  | error fault =>
    unfold Segment.ofBracket at hread
    dsimp only at hread
    split at hread
    · cases hread
    · split at hread
      · cases hread
      · exact congrArg Except.error (Except.error.inj hread).symm

theorem Token.Spells.exists_ofBracket {inner : List Char} {ss : List Segment}
    (h : (Token.bracket inner).Spells ss) :
    ∃ segment, ss = [segment] ∧ Segment.ofBracket inner = .ok segment := by
  cases h with
  | wildcard hstar => exact ⟨_, rfl, ofBracket_eq_ok_iff.mpr (.wildcard hstar)⟩
  | index hi hlimit => exact ⟨_, rfl, ofBracket_eq_ok_iff.mpr (.index hi hlimit)⟩

/-- A token spells one thing at most. -/
theorem Token.Spells.unique {t : Token} {ss ss' : List Segment} (h : t.Spells ss)
    (h' : t.Spells ss') : ss = ss' := by
  cases t with
  | dot => cases h; cases h'; rfl
  | run cs => cases h; cases h'; rfl
  | bracket inner =>
    obtain ⟨segment, rfl, hsegment⟩ := h.exists_ofBracket
    obtain ⟨segment', rfl, hsegment'⟩ := h'.exists_ofBracket
    rw [Except.ok.inj (hsegment.symm.trans hsegment')]

/-! ### Dividing -/

/-- Every text divides into tokens. -/
theorem exists_divides (cs : List Char) : ∃ ts rest, Divides cs ts rest := by
  induction hlength : cs.length using Nat.strong_induction_on generalizing cs with
  | _ n ih =>
    subst hlength
    cases cs with
    | nil => exact ⟨_, _, .nil⟩
    | cons c cs =>
      by_cases hdot : c = '.'
      · subst hdot
        obtain ⟨ts, rest, later⟩ := ih cs.length (by simp) cs rfl
        exact ⟨_, _, .dot later⟩
      · by_cases hbracket : c = '['
        · subst hbracket
          by_cases hclosed : ']' ∈ cs
          · obtain ⟨inner, after, rfl, hinner⟩ := List.eq_append_cons_of_mem hclosed
            obtain ⟨ts, rest, later⟩ := ih after.length (by simp; omega) after rfl
            exact ⟨_, _, .bracket hinner later⟩
          · exact ⟨_, _, .unclosed hclosed⟩
        · -- A run starts here, and goes as far as it can.
          have hkey : isKeyChar c = true := by simp [isKeyChar, hdot, hbracket]
          have hname : ∀ d ∈ (c :: cs).takeWhile isKeyChar, isKeyChar d = true :=
            fun d hd => List.mem_takeWhile_imp hd
          have hend : ∀ d ∈ ((c :: cs).dropWhile isKeyChar).head?, isKeyChar d = false := by
            intro d hd
            have hfirst := List.head?_dropWhile_not isKeyChar (c :: cs)
            rw [Option.mem_def.mp hd] at hfirst
            simpa using hfirst
          have hne : (c :: cs).takeWhile isKeyChar ≠ [] := by
            rw [List.takeWhile_cons_of_pos hkey]
            exact List.cons_ne_nil _ _
          have hshorter : ((c :: cs).dropWhile isKeyChar).length < (c :: cs).length := by
            rw [List.dropWhile_cons_of_pos hkey, List.length_cons]
            exact Nat.lt_succ_of_le (List.dropWhile_suffix _).length_le
          obtain ⟨ts, rest, later⟩ := ih _ hshorter _ rfl
          rw [← List.takeWhile_append_dropWhile (p := isKeyChar) (l := c :: cs)]
          exact ⟨_, _, .run hne hname hend later⟩

/-! ### Reading -/

theorem map_eq_ok {ε α β : Type} {result : Except ε α} {f : α → β} {b : β} :
    result.map f = .ok b ↔ ∃ a, result = .ok a ∧ b = f a := by
  cases result with
  | ok a => simp [Except.map, eq_comm]
  | error e => simp [Except.map]

theorem map_eq_error {ε α β : Type} {result : Except ε α} {f : α → β} {e : ε} :
    result.map f = .error e ↔ result = .error e := by
  cases result <;> simp [Except.map]

theorem segmentsFrom_unclosed {inner : List Char} (h : ']' ∉ inner) :
    segmentsFrom ('[' :: inner) = .error (.unclosed (String.ofList inner)) := by
  rw [segmentsFrom, if_neg (by decide), if_pos rfl]
  split
  · rfl
  · next inner' after hsome =>
    rw [splitAtBracket_eq_none_iff.mpr h] at hsome
    cases hsome

theorem Token.spellAll_nil {ss : List Segment} : SpellAll [] ss ↔ ss = [] := by
  constructor
  · rintro ⟨_, ⟨⟩, rfl⟩
    rfl
  · rintro rfl
    exact ⟨[], .nil, rfl⟩

theorem Token.Spells.spellAll_cons {t : Token} {part : List Segment} (h : t.Spells part)
    {ts : List Token} {ss : List Segment} :
    SpellAll (t :: ts) ss ↔ ∃ later, SpellAll ts later ∧ ss = part ++ later := by
  constructor
  · rintro ⟨_, hparts, rfl⟩
    cases hparts with
    | cons ht hts =>
      rw [h.unique ht]
      exact ⟨_, ⟨_, hts, rfl⟩, List.flatten_cons⟩
  · rintro ⟨_, ⟨parts, hparts, rfl⟩, rfl⟩
    exact ⟨part :: parts, .cons h hparts, List.flatten_cons.symm⟩

theorem not_firstFault_nil {fault : PathError} : ¬ FirstFault [] none fault := by
  rintro (⟨hts, -, -⟩ | ⟨hrest, -⟩)
  · exact absurd hts (by simp)
  · cases hrest

theorem firstFault_nil_some {inner : List Char} {fault : PathError} :
    FirstFault [] (some inner) fault ↔ fault = .unclosed (String.ofList inner) := by
  constructor
  · rintro (⟨hts, -, -⟩ | ⟨hrest, -⟩)
    · exact absurd hts (by simp)
    · rw [Option.some.inj hrest]
  · rintro rfl
    exact .unclosed rfl (List.forall_mem_nil _)

/-- Behind a token that spells something the fault is that of the rest. -/
theorem firstFault_cons_of_spells {t : Token} (h : ∃ ss, t.Spells ss) {ts : List Token}
    {rest : Option (List Char)} {fault : PathError} :
    FirstFault (t :: ts) rest fault ↔ FirstFault ts rest fault := by
  constructor
  · rintro (⟨hts, hbefore, hbad⟩ | ⟨hrest, hts⟩)
    · rename_i before after inner
      -- The bracket at fault is not the token in front, which spells something.
      cases before with
      | nil =>
        obtain ⟨rfl, -⟩ := List.cons.inj hts
        exact absurd h hbad
      | cons t' before =>
        obtain ⟨-, hts⟩ := List.cons.inj hts
        exact .badIndex hts (List.forall_mem_cons.mp hbefore).2 hbad
    · exact .unclosed hrest (List.forall_mem_cons.mp hts).2
  · rintro (⟨rfl, hbefore, hbad⟩ | ⟨hrest, hts⟩)
    · exact .badIndex (List.cons_append ..).symm (List.forall_mem_cons.mpr ⟨h, hbefore⟩) hbad
    · exact .unclosed hrest (List.forall_mem_cons.mpr ⟨h, hts⟩)

/-- A bracket that spells nothing is at fault if it stands in front. -/
theorem firstFault_cons_of_bad {inner : List Char} (h : ¬ ∃ ss, (Token.bracket inner).Spells ss)
    {ts : List Token} {rest : Option (List Char)} {fault : PathError} :
    FirstFault (.bracket inner :: ts) rest fault ↔
      fault = .badIndex (String.ofList (Text.trim inner)) := by
  constructor
  · rintro (⟨hts, hbefore, -⟩ | ⟨-, hts⟩)
    · rename_i before after inner'
      cases before with
      | nil =>
        obtain ⟨heq, -⟩ := List.cons.inj hts
        rw [Token.bracket.inj heq]
      | cons t' before =>
        obtain ⟨rfl, -⟩ := List.cons.inj hts
        exact absurd (List.forall_mem_cons.mp hbefore).1 h
    · exact absurd (List.forall_mem_cons.mp hts).1 h
  · rintro rfl
    exact .badIndex (List.nil_append _).symm (List.forall_mem_nil _) h

/-- A text is read exactly if no bracket is left open and all tokens spell something, and then as what
they spell. -/
theorem Divides.segmentsFrom_eq_ok_iff {cs : List Char} {ts : List Token}
    {rest : Option (List Char)} (h : Divides cs ts rest) {ss : List Segment} :
    segmentsFrom cs = .ok ss ↔ rest = none ∧ Token.SpellAll ts ss := by
  induction h generalizing ss with
  | nil => simp [segmentsFrom, Token.spellAll_nil, eq_comm]
  | unclosed h => simp [segmentsFrom_unclosed h]
  | dot later ih =>
    rw [segmentsFrom_dot, ih, Token.Spells.dot.spellAll_cons]
    simp
  | run hne hname hend later ih =>
    simp only [segmentsFrom_key hne hname hend, map_eq_ok, ih, (Token.Spells.run _).spellAll_cons]
    simp [and_assoc]
  | @bracket inner cs ts rest h later ih =>
    cases hread : Segment.ofBracket inner with
    | ok segment =>
      simp only [segmentsFrom_bracket h hread, map_eq_ok, ih,
        (ofBracket_eq_ok_iff.mp hread).spellAll_cons]
      simp [and_assoc]
    | error fault =>
      rw [segmentsFrom_badBracket h hread]
      constructor
      · intro hok
        cases hok
      · rintro ⟨-, _, hparts, -⟩
        cases hparts with
        | cons ht _ =>
          obtain ⟨segment, -, hsegment⟩ := ht.exists_ofBracket
          rw [hread] at hsegment
          cases hsegment

/-- The fault that is reported is the first. -/
theorem Divides.segmentsFrom_eq_error_iff {cs : List Char} {ts : List Token}
    {rest : Option (List Char)} (h : Divides cs ts rest) {fault : PathError} :
    segmentsFrom cs = .error fault ↔ FirstFault ts rest fault := by
  induction h with
  | nil => simp [segmentsFrom, not_firstFault_nil]
  | unclosed h =>
    rw [segmentsFrom_unclosed h, firstFault_nil_some, Except.error.injEq, eq_comm]
  | dot later ih =>
    rw [segmentsFrom_dot, ih, firstFault_cons_of_spells ⟨_, .dot⟩]
  | run hne hname hend later ih =>
    rw [segmentsFrom_key hne hname hend, map_eq_error, ih, firstFault_cons_of_spells ⟨_, .run _⟩]
  | @bracket inner cs ts rest h later ih =>
    -- A bracket that spells something leaves the fault to the rest, any other is the fault.
    by_cases hspells : ∃ ss, (Token.bracket inner).Spells ss
    · obtain ⟨ss, hss⟩ := hspells
      obtain ⟨segment, rfl, hsegment⟩ := hss.exists_ofBracket
      rw [segmentsFrom_bracket h hsegment, map_eq_error, ih, firstFault_cons_of_spells ⟨_, hss⟩]
    · rw [segmentsFrom_badBracket h (ofBracket_of_not_spells hspells),
        firstFault_cons_of_bad hspells, Except.error.injEq, eq_comm]

/-! ### Dots -/

/-- No bracket that spells something holds a dot. -/
theorem Token.Spells.dot_notMem {inner : List Char} {ss : List Segment}
    (h : (Token.bracket inner).Spells ss) : '.' ∉ inner := by
  have htrim : '.' ∉ Text.trim inner := by
    cases h with
    | wildcard hstar => simp [hstar]
    | index hi hlimit =>
      obtain ⟨sign, digits, hsign, -, hdigits, hcs, -⟩ := hi
      rw [hcs, List.mem_append, not_or]
      refine ⟨?_, fun hmem => absurd (hdigits _ hmem) (by decide)⟩
      rcases hsign with rfl | rfl <;> simp
  obtain ⟨before, after, heq, hbefore, hafter⟩ := Text.exists_eq_append_trim inner
  rw [heq]
  simp only [List.mem_append, not_or]
  exact ⟨⟨fun hmem => absurd (hbefore _ hmem) (by decide), htrim⟩,
    fun hmem => absurd (hafter _ hmem) (by decide)⟩

/-- What follows an open bracket cannot be read if a dot comes next in it. -/
theorem segmentsFrom_unclosed_append_dot {inner later : List Char} (h : ']' ∉ inner)
    {ss : List Segment} : segmentsFrom ('[' :: (inner ++ '.' :: later)) ≠ .ok ss := by
  by_cases hclosed : ']' ∈ later
  · -- The bracket is closed behind the dot, so that it holds the dot.
    obtain ⟨before, after, rfl, hbefore⟩ := List.eq_append_cons_of_mem hclosed
    have hinner : ']' ∉ inner ++ '.' :: before := by simp [h, hbefore]
    have hbad : ¬ ∃ ss, (Token.bracket (inner ++ '.' :: before)).Spells ss :=
      fun ⟨_, hspells⟩ => hspells.dot_notMem (by simp)
    rw [show inner ++ '.' :: (before ++ ']' :: after) = (inner ++ '.' :: before) ++ ']' :: after by
        simp, segmentsFrom_badBracket hinner (ofBracket_of_not_spells hbad)]
    simp
  · rw [segmentsFrom_unclosed (by simp [h, hclosed])]
    simp

theorem exists_cons_append {segment : Segment} {Front Back : List Segment → Prop}
    {ss : List Segment} :
    (∃ later, (∃ front back, Front front ∧ Back back ∧ later = front ++ back) ∧
        ss = segment :: later) ↔
      ∃ front back, (∃ later, Front later ∧ front = segment :: later) ∧ Back back ∧
        ss = front ++ back := by
  constructor
  · rintro ⟨_, ⟨front, back, hfront, hback, rfl⟩, rfl⟩
    exact ⟨_, back, ⟨front, hfront, rfl⟩, hback, rfl⟩
  · rintro ⟨_, back, ⟨front, hfront, rfl⟩, hback, rfl⟩
    exact ⟨_, ⟨front, back, hfront, hback, rfl⟩, rfl⟩

/-- A dot separates: what stands before it is read by itself, and so is what stands behind it. -/
theorem segmentsFrom_append_dot_eq_ok_iff {cs later : List Char} {ss : List Segment} :
    segmentsFrom (cs ++ '.' :: later) = .ok ss ↔
      ∃ front back, segmentsFrom cs = .ok front ∧ segmentsFrom later = .ok back ∧
        ss = front ++ back := by
  obtain ⟨ts, rest, hcs⟩ := exists_divides cs
  induction hcs generalizing ss with
  | nil => simp [segmentsFrom_dot, segmentsFrom]
  | unclosed h => simp [segmentsFrom_unclosed h, segmentsFrom_unclosed_append_dot h]
  | dot _ ih => rw [List.cons_append, segmentsFrom_dot, segmentsFrom_dot, ih]
  | @run name cs _ _ hne hname hend _ ih =>
    -- The run ends where it did, or at the dot if it stood at the end.
    have hend' : ∀ c ∈ (cs ++ '.' :: later).head?, isKeyChar c = false := by
      cases cs with
      | nil => simp [isKeyChar]
      | cons c cs => exact hend
    rw [List.append_assoc, segmentsFrom_key hne hname hend', segmentsFrom_key hne hname hend]
    simp only [map_eq_ok, ih, exists_cons_append]
  | @bracket inner cs _ _ h _ ih =>
    rw [List.cons_append, List.append_assoc, List.cons_append]
    cases hread : Segment.ofBracket inner with
    | ok segment =>
      rw [segmentsFrom_bracket h hread, segmentsFrom_bracket h hread]
      simp only [map_eq_ok, ih, exists_cons_append]
    | error fault => simp [segmentsFrom_badBracket h hread]

/-- One more dot changes nothing at either end, nor beside another dot. -/
theorem segmentsFrom_insert_dot_eq_ok_iff {front later : List Char}
    (h : front = [] ∨ later = [] ∨ later.head? = some '.') {ss : List Segment} :
    segmentsFrom (front ++ '.' :: later) = .ok ss ↔ segmentsFrom (front ++ later) = .ok ss := by
  rcases h with rfl | rfl | h
  · rw [List.nil_append, List.nil_append, segmentsFrom_dot]
  · rw [segmentsFrom_append_dot_eq_ok_iff]
    simp [segmentsFrom]
  · obtain ⟨rest, rfl⟩ := List.head?_eq_some_iff.mp h
    rw [segmentsFrom_append_dot_eq_ok_iff, segmentsFrom_append_dot_eq_ok_iff, segmentsFrom_dot]

/-! ### The mark of the root -/

theorem pathBody_of_trimmed {path : String} (h : Text.Trimmed path.toList)
    (hroot : path.toList.head? ≠ some '$') : pathBody path = path.toList := by
  rw [pathBody, h.trim_eq]
  split
  · next hcs => exact absurd (by rw [hcs]; rfl) hroot
  · rfl

theorem pathBody_root {path : String} {cs : List Char} (h : Text.Trimmed cs)
    (hpath : path.toList = '$' :: cs) : pathBody path = cs := by
  rw [pathBody, hpath, (h.cons (by decide)).trim_eq]
  rfl

/-- Paths of the same segments find the same. -/
theorem findInBody_eq_ok_iff_of_segments_eq {p q : String} (h : segments p = segments q)
    (r : Response) (found : Operand) : r.findInBody p = .ok found ↔ r.findInBody q = .ok found := by
  unfold findInBody
  cases r.body with
  | none => rfl
  | some body =>
    rw [h]
    cases segments q <;> simp

/-- The mark of the root, with or without a dot behind it, changes nothing in front of a path. -/
theorem segments_root {path : String} (h : Text.Trimmed path.toList)
    (hroot : path.toList.head? ≠ some '$') :
    segments ("$" ++ path) = segments path ∧ segments ("$." ++ path) = segments path := by
  have hdollar : pathBody ("$" ++ path) = path.toList :=
    pathBody_root h (by rw [String.toList_append]; rfl)
  have hdot : pathBody ("$." ++ path) = '.' :: path.toList :=
    pathBody_root (h.cons (by decide)) (by rw [String.toList_append]; rfl)
  rw [segments, segments, segments, hdollar, hdot, pathBody_of_trimmed h hroot, segmentsFrom_dot]
  exact ⟨rfl, rfl⟩

/-! ### The grammar -/

/-- **The grammar of paths.**  However a path is divided into tokens, behind its blank start and the
mark of the root, a lookup in a body fails exactly for the leftmost bracket that is left open or spells
nothing, and reports that fault and the path as it is given.  All other paths are read as what their
tokens spell, in order.  One more dot changes nothing at either end of a path or beside another dot, and
a trimmed path finds the same with the mark of the root in front of it, with or without a dot. -/
theorem findInBody_grammar (path : String) :
    (∃ ts rest, Divides (pathBody path) ts rest) ∧
    (∀ ts rest, Divides (pathBody path) ts rest →
      (∀ r : Response, r.body ≠ none → ∀ e,
        (r.findInBody path = .error e ↔ e.path = path ∧ FirstFault ts rest e.reason)) ∧
      (∀ ss, segments path = .ok ss ↔ rest = none ∧ Token.SpellAll ts ss)) ∧
    (∀ front later, pathBody path = front ++ later →
      (front = [] ∨ later = [] ∨ later.head? = some '.') →
        ∀ dotted, pathBody dotted = front ++ '.' :: later →
          ∀ ss, (segments dotted = .ok ss ↔ segments path = .ok ss)) ∧
    (Text.Trimmed path.toList → path.toList.head? ≠ some '$' →
      ∀ (r : Response) (found : Operand),
        (r.findInBody ("$" ++ path) = .ok found ↔ r.findInBody path = .ok found) ∧
          (r.findInBody ("$." ++ path) = .ok found ↔ r.findInBody path = .ok found)) := by
  refine ⟨exists_divides _, fun ts rest h => ⟨fun r hbody e => ?_, fun ss => ?_⟩,
    fun front later hpath hplace dotted hdotted ss => ?_, fun htrimmed hroot r found => ?_⟩
  · rw [findInBody_eq_error_iff, pathFault?_eq_some_iff, segments, h.segmentsFrom_eq_error_iff]
    exact and_iff_right hbody
  · rw [segments, h.segmentsFrom_eq_ok_iff]
  · rw [segments, segments, hpath, hdotted, segmentsFrom_insert_dot_eq_ok_iff hplace]
  · obtain ⟨hdollar, hdot⟩ := segments_root htrimmed hroot
    exact ⟨findInBody_eq_ok_iff_of_segments_eq hdollar r found,
      findInBody_eq_ok_iff_of_segments_eq hdot r found⟩

end ApiCheck.Response
