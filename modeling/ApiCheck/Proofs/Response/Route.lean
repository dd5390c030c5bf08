import ApiCheck.Response
import ApiCheck.Proofs.Number.Reading
import ApiCheck.Proofs.Text.Blank

/-!
# Every node is addressable

A route goes from the root of a body into members of objects and items of arrays; `Leads` says to
which node.  Its canonical path names the root, every key after a dot and every index between
brackets.  Following that path gives exactly the node to which the route leads, and `null` where the
route leads nowhere (`findInBody_canonicalPath`).

The path is read back hop by hop: a key ends at the next dot or bracket, an index at the bracket that
closes it (`segmentsFrom_chars`).
-/

namespace ApiCheck.Response

/-! ### Routes -/

/-- One hop of a route, into a member or an item. -/
inductive Hop where
  | key (name : String)
  | index (i : Nat)
deriving DecidableEq

namespace Hop

/-- The segment that a hop is read as. -/
def segment : Hop → Segment
  | .key name => .key name
  | .index i => .index i

/-- A hop as it is written in a path. -/
def chars : Hop → List Char
  | .key name => '.' :: name.toList
  | .index i => '[' :: (Nat.toDigits 10 i ++ [']'])

/-- A path can name the hop: its key has characters and all of them may stand in a key, its index is
a word. -/
def Nameable : Hop → Prop
  | .key name => name ≠ "" ∧ ∀ c ∈ name.toList, isKeyChar c = true
  | .index i => i < 2 ^ 64

/-- The hop is written without a blank character at its end. -/
def Closed : Hop → Prop
  | .key name => ∀ c ∈ name.toList.getLast?, Text.isBlank c = false
  | .index _ => True

/-- The node to which a hop leads from a value. -/
def node? : Hop → Json → Option Json
  | .key name, v => v.member? name
  | .index i, v => v.item? i

-- Through `List.all` and `Option.all`, so that no instance that enumerates all characters is taken.
instance : DecidablePred Nameable
  | .key name => decidable_of_iff (name ≠ "" ∧ name.toList.all isKeyChar = true)
      (and_congr_right' List.all_eq_true)
  | .index i => inferInstanceAs (Decidable (i < 2 ^ 64))

instance : DecidablePred Closed
  | .key name => decidable_of_iff (name.toList.getLast?.all (fun c => !Text.isBlank c) = true)
      (by simp [Closed, Option.all_eq_true])
  | .index _ => inferInstanceAs (Decidable True)

end Hop

/-- The path of a route. -/
def canonicalPath (route : List Hop) : String :=
  String.ofList ('$' :: route.flatMap Hop.chars)

/-- `Leads route v w`: from the value `v` the route leads to its node `w`. -/
inductive Leads : List Hop → Json → Json → Prop
  | here (v : Json) : Leads [] v v
  | member {name : String} {members : Fields Json} {route : List Hop} {v w : Json}
      (found : members.get? name = some v) (rest : Leads route v w) :
      Leads (.key name :: route) (.object members) w
  | item {i : Nat} {items : List Json} {route : List Hop} {v w : Json}
      (found : items[i]? = some v) (rest : Leads route v w) :
      Leads (.index i :: route) (.array items) w

theorem leads_nil {v w : Json} : Leads [] v w ↔ v = w := by
  constructor
  · rintro ⟨⟩
    rfl
  · rintro rfl
    exact .here v

theorem leads_cons {hop : Hop} {route : List Hop} {v w : Json} :
    Leads (hop :: route) v w ↔ ∃ child, hop.node? v = some child ∧ Leads route child w := by
  constructor
  · rintro (_ | ⟨found, rest⟩ | ⟨found, rest⟩)
    · exact ⟨_, found, rest⟩
    · exact ⟨_, found, rest⟩
  · rintro ⟨child, hchild, rest⟩
    cases hop with
    | key name =>
      cases v with
      | object members => exact .member hchild rest
      | null | bool | number | string | array => cases hchild
    | index i =>
      cases v with
      | array items => exact .item hchild rest
      | null | bool | number | string | object => cases hchild

/-! ### Reading a path -/

theorem splitAtBracket_append {inner after : List Char} (h : ']' ∉ inner) :
    splitAtBracket (inner ++ ']' :: after) = some (inner, after) := by
  induction inner with
  | nil => simp [splitAtBracket]
  | cons c inner ih =>
    simp only [List.mem_cons, not_or] at h
    simp [splitAtBracket, Ne.symm h.1, ih h.2]

theorem ofBracket_toDigits {i : Nat} (h : i < 2 ^ 64) :
    Segment.ofBracket (Nat.toDigits 10 i) = .ok (.index i) := by
  have hstar : Nat.toDigits 10 i ≠ ['*'] := by
    intro hstar
    have hdigit := isDigit_of_mem_toDigits (n := i) '*' (by simp [hstar])
    exact absurd hdigit (by decide)
  have hlimit : i ≤ Segment.maxIndex := by
    unfold Segment.maxIndex
    omega
  have htrim := (Text.trimmed_of_not_blank (isBlank_of_mem_toDigits (n := i))).trim_eq
  simp only [Segment.ofBracket, htrim, if_neg hstar, readUnsigned_toDigits hlimit]

theorem segmentsFrom_dot (cs : List Char) : segmentsFrom ('.' :: cs) = segmentsFrom cs := by
  rw [segmentsFrom]
  rfl

/-- A key is read up to the first character that may not stand in it. -/
theorem segmentsFrom_key {name rest : List Char} (hne : name ≠ [])
    (hname : ∀ c ∈ name, isKeyChar c = true) (hrest : ∀ c ∈ rest.head?, isKeyChar c = false) :
    segmentsFrom (name ++ rest) =
      (segmentsFrom rest).map (.key (String.ofList name) :: ·) := by
  obtain ⟨c, name, rfl⟩ := List.exists_cons_of_ne_nil hne
  obtain ⟨hc, hname⟩ := List.forall_mem_cons.mp hname
  simp only [isKeyChar, Bool.and_eq_true, bne_iff_ne] at hc
  have hstop : rest.takeWhile isKeyChar = [] ∧ rest.dropWhile isKeyChar = rest := by
    cases rest with
    | nil => exact ⟨rfl, rfl⟩
    | cons c rest => simp [hrest c rfl]
  rw [List.cons_append, segmentsFrom, if_neg hc.1, if_neg hc.2,
    List.takeWhile_append_of_pos hname, List.dropWhile_append_of_pos hname, hstop.1, hstop.2,
    List.append_nil]

theorem segmentsFrom_bracket {inner rest : List Char} {segment : Segment} (h : ']' ∉ inner)
    (hsegment : Segment.ofBracket inner = .ok segment) :
    segmentsFrom ('[' :: (inner ++ ']' :: rest)) = (segmentsFrom rest).map (segment :: ·) := by
  rw [segmentsFrom, if_neg (by decide), if_pos rfl]
  split
  · next hnone =>
    rw [splitAtBracket_append h] at hnone
    exact absurd hnone (Option.some_ne_none _)
  · next inner' after hsome =>
    rw [splitAtBracket_append h] at hsome
    obtain ⟨rfl, rfl⟩ := Prod.mk.inj (Option.some.inj hsome)
    simp only [hsegment]

theorem head?_flatMap_chars (route : List Hop) :
    ∀ c ∈ (route.flatMap Hop.chars).head?, isKeyChar c = false := by
  cases route with
  | nil => simp
  | cons hop route => cases hop <;> simp [Hop.chars, isKeyChar]

/-- The hops of a route are read back from the way they are written. -/
theorem segmentsFrom_chars {route : List Hop} (h : ∀ hop ∈ route, hop.Nameable) :
    segmentsFrom (route.flatMap Hop.chars) = .ok (route.map Hop.segment) := by
  induction route with
  | nil => simp [segmentsFrom]
  | cons hop route ih =>
    obtain ⟨hhop, hroute⟩ := List.forall_mem_cons.mp h
    rw [List.flatMap_cons, List.map_cons]
    cases hop with
    | key name =>
      have hne : name.toList ≠ [] := by simpa [String.toList_eq_nil_iff] using hhop.1
      rw [Hop.chars, List.cons_append, segmentsFrom_dot,
        segmentsFrom_key hne hhop.2 (head?_flatMap_chars route), ih hroute, String.ofList_toList]
      rfl
    | index i =>
      have hbracket : ']' ∉ Nat.toDigits 10 i := fun hmem =>
        absurd (isDigit_of_mem_toDigits ']' hmem) (by decide)
      rw [Hop.chars, List.cons_append, List.append_assoc, List.singleton_append,
        segmentsFrom_bracket hbracket (ofBracket_toDigits hhop), ih hroute]
      rfl

theorem getLast?_chars {hop : Hop} (h : hop.Nameable) (hclosed : hop.Closed) :
    ∃ c, hop.chars.getLast? = some c ∧ Text.isBlank c = false := by
  cases hop with
  | key name =>
    have hne : name.toList ≠ [] := by simpa [String.toList_eq_nil_iff] using h.1
    have hlast := List.getLast?_eq_getLast_of_ne_nil hne
    exact ⟨_, by rw [Hop.chars, List.getLast?_cons, hlast, Option.getD_some], hclosed _ hlast⟩
  | index i => exact ⟨']', by rw [Hop.chars, ← List.cons_append, List.getLast?_concat], rfl⟩

/-- A canonical path has no blank ends, and the mark of the root in front. -/
theorem pathBody_canonicalPath {route : List Hop} (h : ∀ hop ∈ route, hop.Nameable)
    (hclosed : ∀ hop ∈ route.getLast?, hop.Closed) :
    pathBody (canonicalPath route) = route.flatMap Hop.chars := by
  have htrimmed : Text.Trimmed ('$' :: route.flatMap Hop.chars) := by
    refine ⟨fun c hc => ?_, fun c hc => ?_⟩
    · obtain rfl : '$' = c := by simpa using hc
      rfl
    · cases hroute : route.getLast? with
      | none =>
        obtain rfl := List.getLast?_eq_none_iff.mp hroute
        obtain rfl : '$' = c := by simpa using hc
        rfl
      | some hop =>
        obtain ⟨before, rfl⟩ := List.getLast?_eq_some_iff.mp hroute
        obtain ⟨c', hc', hblank⟩ := getLast?_chars (h hop (by simp)) (hclosed hop hroute)
        rw [List.flatMap_append, List.flatMap_singleton, ← List.cons_append, List.getLast?_append,
          hc', Option.some_or, Option.mem_some_iff] at hc
        exact hc ▸ hblank
  rw [pathBody, canonicalPath, String.toList_ofList, htrimmed.trim_eq]
  rfl

/-! ### Following a path -/

/-- A path follows its first hop, and from the node there the others. -/
theorem select_segment (hop : Hop) (ss : List Segment) (v : Json) :
    select (hop.segment :: ss) v = hop.node? v >>= select ss := by
  cases hop <;> rfl

theorem select_segments {route : List Hop} {v w : Json} :
    select (route.map Hop.segment) v = some w ↔ Leads route v w := by
  induction route generalizing v with
  | nil => exact Option.some_inj.trans leads_nil.symm
  | cons hop route ih =>
    rw [List.map_cons, select_segment, leads_cons, Option.bind_eq_bind, Option.bind_eq_some_iff]
    simp only [ih]

/-- **Every node is addressable**: the canonical path of a route leads to the node to which the route
leads, and to `null` if the route leads to none.  The keys of the route have characters, none of them a
dot or an opening bracket, its indices are words, and a key at its end does not end with a blank
character. -/
theorem findInBody_canonicalPath (r : Response) (body : Json) (route : List Hop)
    (hbody : r.body = some body) (hroute : ∀ hop ∈ route, hop.Nameable)
    (hclosed : ∀ hop ∈ route.getLast?, hop.Closed) :
    (∀ node, Leads route body node →
      r.findInBody (canonicalPath route) = .ok (.json node)) ∧
    ((¬ ∃ node, Leads route body node) →
      r.findInBody (canonicalPath route) = .ok .null) := by
  have hfind : r.findInBody (canonicalPath route) =
      .ok (.json ((select (route.map Hop.segment) body).getD .null)) := by
    simp only [findInBody, hbody, segments, pathBody_canonicalPath hroute hclosed,
      segmentsFrom_chars hroute]
  refine ⟨fun node hleads => ?_, fun hnone => ?_⟩
  · rw [hfind, select_segments.mpr hleads, Option.getD_some]
  · have hselect : select (route.map Hop.segment) body = none := by
      rw [Option.eq_none_iff_forall_ne_some]
      exact fun node hnode => hnone ⟨node, select_segments.mp hnode⟩
    rw [hfind, hselect, Option.getD_none, Operand.null]

/-- A response with an array in an object. -/
def nested : Response where
  label := "[GET /]"
  status := 200
  body := some (.object [("a b", .array [.null, .object [("]$", .ofNat 7)]])])

/-- A path through an object, an array and an object again, and one past the end of the array. -/
theorem findInBody_canonicalPath_nested :
    let route : List Hop := [.key "a b", .index 1, .key "]$"]
    let beyond : List Hop := [.key "a b", .index 2, .key "]$"]
    canonicalPath route = "$.a b[1].]$" ∧ canonicalPath beyond = "$.a b[2].]$" ∧
      (∀ hop ∈ route ++ beyond, hop.Nameable) ∧ (∀ hop ∈ route.getLast?, hop.Closed) ∧
      nested.findInBody "$.a b[1].]$" = .ok (.json (.ofNat 7)) ∧
      nested.findInBody "$.a b[2].]$" = .ok .null := by
  intro route beyond
  have hpath : canonicalPath route = "$.a b[1].]$" := by decide +kernel
  have hbeyond : canonicalPath beyond = "$.a b[2].]$" := by decide +kernel
  have hleads : Leads route (.object [("a b", .array [.null, .object [("]$", .ofNat 7)]])])
      (.ofNat 7) :=
    .member rfl (.item rfl (.member rfl (.here _)))
  refine ⟨hpath, hbeyond, by decide +kernel, by decide +kernel, ?_, ?_⟩
  · rw [← hpath]
    exact (findInBody_canonicalPath nested _ route rfl (by decide +kernel) (by decide +kernel)).1 _
      hleads
  · rw [← hbeyond]
    refine (findInBody_canonicalPath nested _ beyond rfl (by decide +kernel)
      (by decide +kernel)).2 ?_
    show ¬ ∃ node, Leads [.key "a b", .index 2, .key "]$"] _ node
    rintro ⟨_, _ | ⟨found, _ | _ | ⟨found', -⟩⟩⟩
    obtain rfl := Json.array.inj (Option.some.inj found)
    exact nomatch found'

end ApiCheck.Response
