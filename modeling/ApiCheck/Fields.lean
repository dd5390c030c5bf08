/-!
# Fields in key order

`Fields α` is a list of keys with their values.  `insert` keeps the keys in ascending order of
their characters and replaces the value of a key that is already there, so that fields built by
`insert` hold every key once and are equal as soon as they hold the same values
(`Ordered.insert`, `get?_insert`).  `insertAll` writes one field after the other, so that a key holds
the last of them that has it (`get?_insertAll`).

The same type serves the members of a JSON object, the columns of an examples row and the values
of a dataset.
-/

namespace ApiCheck

/-- Keys with their values. -/
abbrev Fields (α : Type) := List (String × α)

namespace Fields

variable {α : Type}

/-! ### Operations -/

/-- The value of the first field with the key `k`. -/
def get? (k : String) : Fields α → Option α
  | [] => none
  | (k', v) :: rest => if k = k' then some v else get? k rest

/-- The fields with `k` set to `v`, in front of the first greater key. -/
def insert (k : String) (v : α) : Fields α → Fields α
  | [] => [(k, v)]
  | (k', v') :: rest =>
    if k = k' then (k, v) :: rest
    else if k < k' then (k, v) :: (k', v') :: rest
    else (k', v') :: insert k v rest

/-- The fields of `new` written over those of `old`, one by one. -/
def insertAll (new old : Fields α) : Fields α :=
  new.foldl (fun fields (k, v) => fields.insert k v) old

/-- The keys, in the order in which they are held. -/
def keys (fields : Fields α) : List String :=
  List.map Prod.fst fields

/-- The values, in the order of their keys. -/
def values (fields : Fields α) : List α :=
  List.map Prod.snd fields

/-- The keys ascend, so that each is held once. -/
def Ordered (fields : Fields α) : Prop :=
  fields.keys.Pairwise (· < ·)

/-! ### Laws -/

@[simp] theorem get?_nil (k : String) : get? k ([] : Fields α) = none := rfl

theorem get?_insert_self (k : String) (v : α) (fields : Fields α) :
    get? k (fields.insert k v) = some v := by
  induction fields with
  | nil => simp [insert, get?]
  | cons field rest ih =>
    obtain ⟨k', v'⟩ := field
    by_cases h : k = k'
    · simp [insert, get?, h]
    · by_cases hlt : k < k'
      · simp [insert, get?, h, hlt]
      · simp [insert, get?, h, hlt, ih]

theorem get?_insert_of_ne {k l : String} (hne : l ≠ k) (v : α) (fields : Fields α) :
    get? l (fields.insert k v) = get? l fields := by
  induction fields with
  | nil => simp [insert, get?, hne]
  | cons field rest ih =>
    obtain ⟨k', v'⟩ := field
    by_cases h : k = k'
    · subst h
      simp [insert, get?, hne]
    · by_cases hlt : k < k'
      · simp [insert, get?, h, hlt, hne]
      · simp [insert, get?, h, hlt, ih]

/-- Inserting changes the value of its own key and of no other. -/
theorem get?_insert (k l : String) (v : α) (fields : Fields α) :
    get? l (fields.insert k v) = if l = k then some v else get? l fields := by
  split
  · next h => rw [h, get?_insert_self]
  · next h => exact get?_insert_of_ne h v fields

/-- Keys that neither are equal nor ascend descend. -/
theorem lt_of_not_lt {k l : String} (hne : k ≠ l) (hlt : ¬ k < l) : l < k :=
  Std.lt_of_le_of_ne (String.not_lt.mp hlt) (Ne.symm hne)

/-- Of two values that are inserted under one key the later counts. -/
theorem insert_insert_self (k : String) (v w : α) (fields : Fields α) :
    (fields.insert k v).insert k w = fields.insert k w := by
  induction fields with
  | nil => simp [insert]
  | cons field rest ih =>
    obtain ⟨k', v'⟩ := field
    by_cases h : k = k'
    · simp [insert, h]
    · by_cases hlt : k < k'
      · simp [insert, h, hlt]
      · simp [insert, h, hlt, ih]

theorem insert_comm_of_lt {k l : String} (hkl : k < l) (v w : α) (fields : Fields α) :
    (fields.insert k v).insert l w = (fields.insert l w).insert k v := by
  have hne : l ≠ k := fun h => String.lt_irrefl k (h ▸ hkl)
  have hge : ¬ l < k := fun h => String.lt_irrefl k (String.lt_trans hkl h)
  induction fields with
  | nil => simp [insert, hne, hge, hkl, Ne.symm hne]
  | cons field rest ih =>
    obtain ⟨m, u⟩ := field
    by_cases hkm : k = m
    · subst hkm
      simp [insert, hne, hge]
    · by_cases hlt : k < m
      · -- The smaller key comes to stand in front, wherever the greater one goes.
        by_cases hlm : l = m
        · subst hlm
          simp [insert, hkm, hlt, hne, hge]
        · by_cases hlm' : l < m
          · simp [insert, hkm, hlt, hne, hge, hlm, hlm', hkl, Ne.symm hne]
          · simp [insert, hkm, hlt, hne, hge, hlm, hlm']
      · have hml : m < l := String.lt_trans (lt_of_not_lt hkm hlt) hkl
        have hlm : l ≠ m := fun h => String.lt_irrefl m (h ▸ hml)
        have hlm' : ¬ l < m := fun h => String.lt_irrefl m (String.lt_trans hml h)
        simp [insert, hkm, hlt, hlm, hlm', ih]

/-- Values under different keys may be inserted in either order. -/
theorem insert_comm {k l : String} (hne : k ≠ l) (v w : α) (fields : Fields α) :
    (fields.insert k v).insert l w = (fields.insert l w).insert k v := by
  by_cases hlt : k < l
  · exact insert_comm_of_lt hlt v w fields
  · exact (insert_comm_of_lt (lt_of_not_lt hne hlt) w v fields).symm

theorem mem_keys_insert {k l : String} {v : α} {fields : Fields α}
    (h : l ∈ (fields.insert k v).keys) : l = k ∨ l ∈ fields.keys := by
  induction fields with
  | nil => simpa [insert, keys] using h
  | cons field rest ih =>
    obtain ⟨k', v'⟩ := field
    unfold insert at h
    split at h
    · simp_all [keys]
    · split at h
      · simp_all [keys]
      · simp only [keys, List.map_cons, List.mem_cons] at h ih ⊢
        rcases h with h | h
        · exact .inr (.inl h)
        · rcases ih h with h | h
          · exact .inl h
          · exact .inr (.inr h)

theorem mem_of_mem_insert {k l : String} {v w : α} {fields : Fields α}
    (h : (l, w) ∈ fields.insert k v) : w = v ∨ (l, w) ∈ fields := by
  induction fields with
  | nil => exact .inl (Prod.mk.inj (List.mem_singleton.1 h)).2
  | cons field rest ih =>
    obtain ⟨k', v'⟩ := field
    unfold insert at h
    split at h
    · rcases List.mem_cons.1 h with heq | hmem
      · exact .inl (Prod.mk.inj heq).2
      · exact .inr (List.mem_cons_of_mem _ hmem)
    · split at h
      · rcases List.mem_cons.1 h with heq | hmem
        · exact .inl (Prod.mk.inj heq).2
        · exact .inr hmem
      · rcases List.mem_cons.1 h with heq | hmem
        · exact .inr (heq ▸ List.mem_cons_self)
        · exact (ih hmem).imp_right (List.mem_cons_of_mem _)

/-- Inserting keeps the keys in ascending order. -/
theorem Ordered.insert {fields : Fields α} (h : fields.Ordered) (k : String) (v : α) :
    (fields.insert k v).Ordered := by
  induction fields with
  | nil => simp [Fields.insert, Ordered, keys]
  | cons field rest ih =>
    obtain ⟨k', v'⟩ := field
    have hrest : Ordered rest := (List.pairwise_cons.1 h).2
    have hfirst : ∀ l ∈ keys rest, k' < l := (List.pairwise_cons.1 h).1
    unfold Fields.insert
    split
    · next heq => subst heq; exact h
    · next hne =>
      split
      · next hlt =>
        refine List.pairwise_cons.2 ⟨fun l hl => ?_, h⟩
        rcases List.mem_cons.1 hl with rfl | hl
        · exact hlt
        · exact String.lt_trans hlt (hfirst l hl)
      · next hlt =>
        refine List.pairwise_cons.2 ⟨fun l hl => ?_, ih hrest⟩
        rcases mem_keys_insert hl with rfl | hl
        · exact lt_of_not_lt hne hlt
        · exact hfirst l hl

/-- What is held under a key is a field with that key. -/
theorem mem_of_get? {k : String} {v : α} {fields : Fields α} (h : get? k fields = some v) :
    (k, v) ∈ fields := by
  induction fields with
  | nil => cases h
  | cons field rest ih =>
    obtain ⟨k', v'⟩ := field
    unfold get? at h
    split at h
    · next heq =>
      obtain rfl := Option.some.inj h
      exact heq ▸ List.mem_cons_self
    · exact List.mem_cons_of_mem _ (ih h)

/-- Of fields with different keys every one is held under its key. -/
theorem get?_of_mem {k : String} {v : α} {fields : Fields α} (hkeys : (keys fields).Nodup)
    (h : (k, v) ∈ fields) : get? k fields = some v := by
  induction fields with
  | nil => cases h
  | cons field rest ih =>
    obtain ⟨k', v'⟩ := field
    obtain ⟨hfresh, hrest⟩ := List.nodup_cons.1 hkeys
    rcases List.mem_cons.1 h with heq | hmem
    · obtain ⟨rfl, rfl⟩ := Prod.mk.inj heq
      rw [get?, if_pos rfl]
    · -- The key of the first field stands nowhere behind it.
      have hkey : k ∈ keys rest := List.mem_map_of_mem hmem
      have hne : k ≠ k' := fun heq => hfresh (heq ▸ hkey)
      rw [get?, if_neg hne, ih hrest hmem]

/-- The keys that are held are those of the fields. -/
theorem isSome_get?_iff {k : String} {fields : Fields α} :
    (get? k fields).isSome = true ↔ k ∈ keys fields := by
  induction fields with
  | nil => simp [get?, keys]
  | cons field rest ih =>
    obtain ⟨k', v'⟩ := field
    rw [get?, keys, List.map_cons, List.mem_cons]
    split
    · next heq => exact iff_of_true rfl (.inl heq)
    · next hne => exact ih.trans (or_iff_right hne).symm

theorem Ordered.nodup {fields : Fields α} (h : fields.Ordered) : (keys fields).Nodup := by
  refine List.Pairwise.imp ?_ h
  intro k l hlt heq
  exact String.lt_irrefl k (heq ▸ hlt)

/-- In ascending fields every field is the one of its key. -/
theorem Ordered.get?_eq_some_iff {fields : Fields α} (h : fields.Ordered) {k : String} {v : α} :
    get? k fields = some v ↔ (k, v) ∈ fields :=
  ⟨mem_of_get?, get?_of_mem h.nodup⟩

/-- Of fields with different keys the last one with a key is the first. -/
theorem get?_reverse {fields : Fields α} (hkeys : (keys fields).Nodup) (k : String) :
    get? k fields.reverse = get? k fields := by
  have hkeys' : (keys fields.reverse).Nodup := by
    rw [keys, List.map_reverse]
    exact List.pairwise_reverse.2 (hkeys.imp Ne.symm)
  refine Option.ext fun v => ⟨fun h => ?_, fun h => ?_⟩
  · exact get?_of_mem hkeys (List.mem_reverse.1 (mem_of_get? h))
  · exact get?_of_mem hkeys' (List.mem_reverse.2 (mem_of_get? h))

theorem get?_append (k : String) (front back : Fields α) :
    get? k (front ++ back) = (get? k front).or (get? k back) := by
  induction front with
  | nil => rfl
  | cons field rest ih =>
    obtain ⟨k', v'⟩ := field
    rw [List.cons_append, get?, get?, ih]
    split <;> rfl

theorem get?_map {β : Type} (k : String) (f : α → β) (fields : Fields α) :
    get? k (fields.map fun (l, v) => (l, f v)) = (get? k fields).map f := by
  induction fields with
  | nil => rfl
  | cons field rest ih =>
    obtain ⟨k', v'⟩ := field
    rw [List.map_cons, get?, get?, ih]
    split <;> rfl

/-- After several fields are written, a key holds the last of them that has it, or else what it held
before. -/
theorem get?_insertAll (k : String) (new old : Fields α) :
    get? k (insertAll new old) = (get? k new.reverse).or (get? k old) := by
  induction new generalizing old with
  | nil => rfl
  | cons field rest ih =>
    obtain ⟨k', v'⟩ := field
    show get? k (insertAll rest (old.insert k' v')) = _
    rw [ih, get?_insert, List.reverse_cons, get?_append]
    cases get? k (List.reverse rest) with
    | some v => rfl
    | none =>
      rw [Option.none_or, Option.none_or, get?]
      split <;> rfl

/-- Writing several fields keeps the keys in ascending order. -/
theorem Ordered.insertAll {old : Fields α} (h : old.Ordered) (new : Fields α) :
    (Fields.insertAll new old).Ordered := by
  induction new generalizing old with
  | nil => exact h
  | cons field rest ih => exact ih (h.insert field.1 field.2)

/-- The keys that are held after several fields are written are theirs and those from before. -/
theorem isSome_get?_insertAll {k : String} {new old : Fields α} :
    (get? k (insertAll new old)).isSome = true ↔ k ∈ keys new ∨ (get? k old).isSome = true := by
  rw [get?_insertAll, Option.isSome_or, Bool.or_eq_true, isSome_get?_iff, keys, List.map_reverse,
    List.mem_reverse, keys]

/-- Of fields with different keys each is held after they are written. -/
theorem get?_insertAll_of_mem {k : String} {v : α} {new old : Fields α} (hkeys : (keys new).Nodup)
    (h : (k, v) ∈ new) : get? k (insertAll new old) = some v := by
  rw [get?_insertAll, get?_reverse hkeys, get?_of_mem hkeys h, Option.some_or]

end Fields

end ApiCheck
