import ApiCheck.Table
import Mathlib.Data.List.Basic

/-!
# Tables of two columns

A table whose rows all have two cells is made of pairs (`DataTable.exists_eq_ofPairs`) and reads as
them (`DataTable.pairs_eq_ok_iff`).  Any other table has a first row that does not have two cells
(`DataTable.exists_firstMalformed`) and is refused for that row, whatever the rows behind it hold
(`DataTable.pairs_of_firstMalformed`).
-/

namespace ApiCheck.DataTable

/-- The row that is described is the first of the table that does not have two cells. -/
inductive FirstMalformed : DataTable → MalformedRow → Prop
  | intro {earlier later : List (List String)} {cells : List String}
      (hearlier : ∀ row ∈ earlier, row.length = 2) (hcells : cells.length ≠ 2) :
      FirstMalformed ⟨earlier ++ cells :: later⟩ ⟨earlier.length, cells.length⟩

theorem pairsFrom_malformed (start : Nat) {cells : List String} (h : cells.length ≠ 2)
    (later : List (List String)) :
    pairsFrom start (cells :: later) = .error ⟨start, cells.length⟩ := by
  unfold pairsFrom
  split
  · next heq => cases heq
  · next heq =>
    obtain ⟨rfl, -⟩ := List.cons.inj heq
    exact absurd rfl h
  · next heq =>
    obtain ⟨rfl, -⟩ := List.cons.inj heq
    rfl

/-- Rows of two cells are read, and the first of other rows is reported. -/
theorem pairsFrom_append_malformed (start : Nat) {earlier : List (List String)}
    {cells : List String} (hearlier : ∀ row ∈ earlier, row.length = 2) (hcells : cells.length ≠ 2)
    (later : List (List String)) :
    pairsFrom start (earlier ++ cells :: later) =
      .error ⟨start + earlier.length, cells.length⟩ := by
  induction earlier generalizing start with
  | nil => exact pairsFrom_malformed start hcells later
  | cons row earlier ih =>
    obtain ⟨hrow, hrest⟩ := List.forall_mem_cons.mp hearlier
    obtain ⟨key, value, rfl⟩ := List.length_eq_two.mp hrow
    have hindex : start + 1 + earlier.length = start + (earlier.length + 1) := by omega
    rw [List.cons_append, pairsFrom, ih (start + 1) hrest, hindex, List.length_cons]

/-- A table with a malformed row is refused for the first of them. -/
theorem pairs_of_firstMalformed {t : DataTable} {e : MalformedRow} (h : t.FirstMalformed e) :
    t.pairs = .error e := by
  obtain ⟨hearlier, hcells⟩ := h
  rw [pairs, pairsFrom_append_malformed 0 hearlier hcells, Nat.zero_add]

theorem exists_firstMalformed {t : DataTable} (h : ∃ row ∈ t.rows, row.length ≠ 2) :
    ∃ e, t.FirstMalformed e := by
  obtain ⟨rows⟩ := t
  obtain ⟨row, hrow, hlength⟩ := h
  have hsome : (rows.find? fun row => row.length != 2).isSome = true :=
    List.find?_isSome.mpr ⟨row, hrow, bne_iff_ne.mpr hlength⟩
  obtain ⟨cells, hfind⟩ := Option.isSome_iff_exists.mp hsome
  obtain ⟨hcells, earlier, later, rfl, hearlier⟩ := List.find?_eq_some_iff_append.mp hfind
  refine ⟨_, .intro (fun row hrow => ?_) (bne_iff_ne.mp hcells)⟩
  simpa using hearlier row hrow

theorem exists_eq_ofPairs {t : DataTable} (h : ∀ row ∈ t.rows, row.length = 2) :
    ∃ pairs, t = ofPairs pairs := by
  obtain ⟨rows⟩ := t
  induction rows with
  | nil => exact ⟨[], rfl⟩
  | cons row rows ih =>
    obtain ⟨hrow, hrows⟩ := List.forall_mem_cons.mp h
    obtain ⟨key, value, rfl⟩ := List.length_eq_two.mp hrow
    obtain ⟨pairs, hpairs⟩ := ih hrows
    obtain rfl := DataTable.mk.inj hpairs
    exact ⟨(key, value) :: pairs, rfl⟩

/-- A table reads as pairs exactly if it is made of them. -/
theorem pairs_eq_ok_iff {t : DataTable} {pairs : List (String × String)} :
    t.pairs = .ok pairs ↔ t = ofPairs pairs := by
  constructor
  · intro h
    exact (ofPairs_of_pairs h).symm
  · rintro rfl
    exact pairs_ofPairs pairs

end ApiCheck.DataTable
