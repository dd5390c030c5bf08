import ApiCheck.Json.Parser

/-!
# Values that are read

Every value that is read from a text is well formed (`wellFormed_of_parse?`).  The scalars among the
tokens are: a numeral that is taken as an integer keeps to 64 bits.  The reader keeps what it holds
well formed with each token (`State.WellFormed.step`), since the items of an open array are and the
members of an open object are inserted in key order, and so to the end of the text
(`State.WellFormed.run`).
-/

namespace ApiCheck.Json

/-! ### Parts -/

theorem wellFormedItems_iff {items : List Json} :
    WellFormedItems items ↔ ∀ v ∈ items, v.WellFormed := by
  induction items with
  | nil => simp [WellFormedItems]
  | cons item items ih => rw [WellFormedItems, ih, List.forall_mem_cons]

theorem wellFormedMembers_iff {members : Fields Json} :
    WellFormedMembers members ↔ ∀ k v, (k, v) ∈ members → v.WellFormed := by
  induction members with
  | nil => simp [WellFormedMembers]
  | cons member members ih =>
    obtain ⟨k, v⟩ := member
    rw [WellFormedMembers, ih]
    constructor
    · rintro ⟨hv, hrest⟩ k' v' hmem
      rcases List.mem_cons.mp hmem with heq | hmem
      · obtain ⟨-, rfl⟩ := Prod.mk.inj heq
        exact hv
      · exact hrest k' v' hmem
    · intro h
      exact ⟨h k v List.mem_cons_self, fun k' v' hmem => h k' v' (List.mem_cons_of_mem _ hmem)⟩

/-- An object stays well formed when a member is inserted. -/
theorem wellFormed_insert {members : Fields Json} {v : Json} (h : (object members).WellFormed)
    (hv : v.WellFormed) (k : String) : (object (members.insert k v)).WellFormed := by
  rw [WellFormed] at h ⊢
  obtain ⟨hordered, hmembers⟩ := h
  rw [wellFormedMembers_iff] at hmembers ⊢
  refine ⟨hordered.insert k v, fun l w hmem => ?_⟩
  rcases Fields.mem_of_mem_insert hmem with rfl | hmem
  · exact hv
  · exact hmembers l w hmem

/-! ### Tokens -/

/-- The value of a scalar token is well formed. -/
def Token.WellFormed : Token → Prop
  | .scalar v => v.WellFormed
  | _ => True

theorem wellFormed_of_number? {n : Numeral} {m : Number} (h : n.number? = some m) :
    (number m).WellFormed := by
  have hreal : n.real?.map .real = some m → (number m).WellFormed := by
    intro h
    obtain ⟨x, -, rfl⟩ := Option.map_eq_some_iff.mp h
    trivial
  simp only [Numeral.number?] at h
  split at h
  · split at h
    · next hrange =>
      obtain rfl := Option.some.inj h
      simp only [Bool.and_eq_true, decide_eq_true_eq] at hrange
      rw [WellFormed, Number.InRange]
      omega
    · split at h
      · next hrange =>
        obtain rfl := Option.some.inj h
        simp only [Bool.and_eq_true, decide_eq_true_eq] at hrange
        rw [WellFormed, Number.InRange]
        omega
      · exact hreal h
  · exact hreal h

namespace Token

theorem wellFormed_of_word? {cs : List Char} {v : Json} (h : word? cs = some v) :
    v.WellFormed := by
  unfold word? at h
  split at h
  · obtain rfl := Option.some.inj h
    trivial
  · split at h
    · obtain rfl := Option.some.inj h
      trivial
    · split at h
      · obtain rfl := Option.some.inj h
        trivial
      · cases h

theorem wellFormed_of_numeral? {cs : List Char} {v : Json} (h : numeral? cs = some v) :
    v.WellFormed := by
  obtain ⟨n, -, hnumber⟩ := Option.bind_eq_some_iff.mp h
  obtain ⟨m, hm, rfl⟩ := Option.map_eq_some_iff.mp hnumber
  exact wellFormed_of_number? hm

theorem wellFormed_of_next? {c : Char} {cs rest : List Char} {t : Token}
    (h : next? c cs = some (t, rest)) : t.WellFormed := by
  unfold next? at h
  split at h
  case h_7 =>
    obtain ⟨_, -, heq⟩ := Option.map_eq_some_iff.mp h
    obtain ⟨rfl, -⟩ := Prod.mk.inj heq
    trivial
  case h_8 =>
    split at h
    · obtain ⟨v, hv, heq⟩ := Option.map_eq_some_iff.mp h
      obtain ⟨rfl, -⟩ := Prod.mk.inj heq
      exact wellFormed_of_word? hv
    · obtain ⟨v, hv, heq⟩ := Option.map_eq_some_iff.mp h
      obtain ⟨rfl, -⟩ := Prod.mk.inj heq
      exact wellFormed_of_numeral? hv
  -- The other tokens are marks.
  all_goals
    obtain ⟨rfl, -⟩ := Prod.mk.inj (Option.some.inj h)
    trivial

theorem wellFormed_of_tokensFrom? {done : List Token} {cs : List Char} {ts : List Token}
    (hdone : ∀ t ∈ done, t.WellFormed) (h : tokensFrom? done cs = some ts) :
    ∀ t ∈ ts, t.WellFormed := by
  fun_induction tokensFrom? done cs with
  | case1 done =>
    obtain rfl := Option.some.inj h
    exact fun t ht => hdone t (List.mem_reverse.mp ht)
  | case2 done c cs hspace ih => exact ih hdone h
  | case3 done c cs hspace hnext => cases h
  | case4 done c cs hspace t rest hnext hlength ih =>
    exact ih (List.forall_mem_cons.mpr ⟨wellFormed_of_next? hnext, hdone⟩) h

end Token

/-! ### The reader -/

/-- What an open value holds is well formed. -/
def Frame.WellFormed : Frame → Prop
  | .array items => ∀ v ∈ items, v.WellFormed
  | .object members _ => (Json.object members).WellFormed

namespace State

/-- What the reader holds is well formed. -/
def WellFormed : State → Prop
  | .value stack => ∀ f ∈ stack, f.WellFormed
  | .firstItem stack => ∀ f ∈ stack, f.WellFormed
  | .firstKey stack => ∀ f ∈ stack, f.WellFormed
  | .key members stack => (object members).WellFormed ∧ ∀ f ∈ stack, f.WellFormed
  | .colon members _ stack => (object members).WellFormed ∧ ∀ f ∈ stack, f.WellFormed
  | .done v stack => v.WellFormed ∧ ∀ f ∈ stack, f.WellFormed

theorem WellFormed.start {stack : List Frame} {t : Token} {s : State}
    (hstack : ∀ f ∈ stack, f.WellFormed) (ht : t.WellFormed) (h : start? stack t = some s) :
    s.WellFormed := by
  unfold start? at h
  split at h
  · obtain rfl := Option.some.inj h
    exact ⟨ht, hstack⟩
  · split at h
    · obtain rfl := Option.some.inj h
      exact hstack
    · cases h
  · split at h
    · obtain rfl := Option.some.inj h
      exact hstack
    · cases h
  · cases h

/-- One token keeps what the reader holds well formed. -/
theorem WellFormed.step {s s' : State} {t : Token} (hs : s.WellFormed) (ht : t.WellFormed)
    (h : s.step? t = some s') : s'.WellFormed := by
  have hempty : (object []).WellFormed := by
    rw [Json.WellFormed]
    exact ⟨.nil, trivial⟩
  unfold step? at h
  split at h
  · exact .start hs ht h
  · obtain rfl := Option.some.inj h
    exact ⟨trivial, hs⟩
  · have hframe : (Frame.array []).WellFormed := fun v hv => absurd hv List.not_mem_nil
    exact .start (List.forall_mem_cons.mpr ⟨hframe, hs⟩) ht h
  · obtain rfl := Option.some.inj h
    exact ⟨hempty, hs⟩
  · obtain rfl := Option.some.inj h
    exact ⟨hempty, hs⟩
  · obtain rfl := Option.some.inj h
    exact hs
  · obtain rfl := Option.some.inj h
    exact List.forall_mem_cons.mpr hs
  · obtain rfl := Option.some.inj h
    obtain ⟨hitems, hstack⟩ := List.forall_mem_cons.mp hs.2
    exact List.forall_mem_cons.mpr ⟨List.forall_mem_cons.mpr ⟨hs.1, hitems⟩, hstack⟩
  · obtain rfl := Option.some.inj h
    obtain ⟨hitems, hstack⟩ := List.forall_mem_cons.mp hs.2
    refine ⟨?_, hstack⟩
    rw [Json.WellFormed, wellFormedItems_iff]
    exact fun v hv => (List.forall_mem_cons.mpr ⟨hs.1, hitems⟩) v (List.mem_reverse.mp hv)
  · obtain rfl := Option.some.inj h
    obtain ⟨hmembers, hstack⟩ := List.forall_mem_cons.mp hs.2
    exact ⟨wellFormed_insert hmembers hs.1 _, hstack⟩
  · obtain rfl := Option.some.inj h
    obtain ⟨hmembers, hstack⟩ := List.forall_mem_cons.mp hs.2
    exact ⟨wellFormed_insert hmembers hs.1 _, hstack⟩
  · cases h

/-- All tokens of a text do. -/
theorem WellFormed.run {ts : List Token} {s s' : State} (hs : s.WellFormed)
    (hts : ∀ t ∈ ts, t.WellFormed) (h : ts.foldlM step? s = some s') : s'.WellFormed := by
  induction ts generalizing s with
  | nil =>
    obtain rfl := Option.some.inj h
    exact hs
  | cons t ts ih =>
    obtain ⟨ht, hrest⟩ := List.forall_mem_cons.mp hts
    rw [List.foldlM_cons] at h
    obtain ⟨next, hnext, hrun⟩ := Option.bind_eq_some_iff.mp h
    exact ih (hs.step ht hnext) hrest hrun

end State

/-- **Every value that is read from a text is well formed.** -/
theorem wellFormed_of_parse? {s : String} {v : Json} (h : parse? s = some v) : v.WellFormed := by
  obtain ⟨ts, htokens, hvalue⟩ := Option.bind_eq_some_iff.mp h
  have hts := Token.wellFormed_of_tokensFrom? (fun t ht => by cases ht) htokens
  unfold ofTokens? at hvalue
  split at hvalue
  · next hrun =>
    obtain rfl := Option.some.inj hvalue
    have hstart : (State.value []).WellFormed := fun f hf => by cases hf
    exact (hstart.run hts hrun).1
  · cases hvalue

end ApiCheck.Json
