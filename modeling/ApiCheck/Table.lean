import ApiCheck.Json.Record

/-!
# Data tables

A data table is the list of rows that stands under a step.  `pairs` reads a table of two columns
and names the first row that does not have exactly two cells; `ofPairs` writes such a table.  The
two are inverse to each other (`pairs_ofPairs`, `ofPairs_of_pairs`).
-/

namespace ApiCheck

/-- A table under a step. -/
structure DataTable where
  rows : List (List String)
deriving DecidableEq

/-- A row that does not hold exactly a key and a value. -/
structure MalformedRow where
  /-- The index of the row. -/
  row : Nat
  /-- The number of its cells. -/
  cells : Nat
deriving DecidableEq

/-- The wording of a malformed row. -/
def MalformedRow.message (e : MalformedRow) : String :=
  s!"malformed table row {e.row}: expected 2 cells, found {e.cells}"

namespace DataTable

/-- The table of two columns with the given rows. -/
def ofPairs (pairs : List (String × String)) : DataTable :=
  ⟨pairs.map fun (key, value) => [key, value]⟩

/-- The rows from index `row` on as pairs. -/
def pairsFrom (row : Nat) : List (List String) → Except MalformedRow (List (String × String))
  | [] => .ok []
  | [key, value] :: rest =>
    match pairsFrom (row + 1) rest with
    | .ok pairs => .ok ((key, value) :: pairs)
    | .error e => .error e
  | cells :: _ => .error ⟨row, cells.length⟩

/-- The rows as pairs. -/
def pairs (t : DataTable) : Except MalformedRow (List (String × String)) :=
  pairsFrom 0 t.rows

/-- The number of rows. -/
def size (t : DataTable) : Nat :=
  t.rows.length

/-- Whether there is no row. -/
def isEmpty (t : DataTable) : Bool :=
  t.rows.isEmpty

/-! ### JSON -/

/-- The table as an array of arrays of strings. -/
def toJson (t : DataTable) : Json :=
  .array (t.rows.map Json.ofStrings)

/-- The table that an array of arrays of strings denotes. -/
def ofJson? (v : Json) : Option DataTable :=
  (Json.listOf? (Json.listOf? Json.string?) v).map DataTable.mk

/-! ### Laws -/

theorem pairsFrom_map (pairs : List (String × String)) (row : Nat) :
    pairsFrom row (pairs.map fun (key, value) => [key, value]) = .ok pairs := by
  induction pairs generalizing row with
  | nil => rfl
  | cons pair rest ih => simp [pairsFrom, ih]

/-- A table made of pairs reads as those pairs. -/
theorem pairs_ofPairs (pairs : List (String × String)) : (ofPairs pairs).pairs = .ok pairs :=
  pairsFrom_map pairs 0

theorem map_of_pairsFrom {row : Nat} {rows : List (List String)} {pairs : List (String × String)}
    (h : pairsFrom row rows = .ok pairs) : pairs.map (fun (key, value) => [key, value]) = rows := by
  fun_induction pairsFrom row rows generalizing pairs with
  | case1 => simp_all
  | case2 row key value rest tail hrest ih =>
    simp only [Except.ok.injEq] at h
    simpa [← h] using ih hrest
  | case3 => simp at h
  | case4 => simp at h

/-- A table that reads as pairs is made of them. -/
theorem ofPairs_of_pairs {t : DataTable} {pairs : List (String × String)}
    (h : t.pairs = .ok pairs) : ofPairs pairs = t := by
  obtain ⟨rows⟩ := t
  exact congrArg DataTable.mk (map_of_pairsFrom h)

end DataTable

end ApiCheck
