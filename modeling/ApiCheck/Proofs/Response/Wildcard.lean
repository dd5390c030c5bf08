import ApiCheck.Proofs.Json
import ApiCheck.Proofs.Response.Route
import Mathlib.Data.List.Forall2

/-!
# What a wildcard selects

A route fits a path if it has a hop for every segment: the key or the index itself, and any hop for a
wildcard.  `hits` lists the fitting routes that lead to a node, with the nodes, in the order in which
they come: `mem_hits` says that they are all, and `pairwise_hits` that they ascend, the hop for the
outermost wildcard first.

Selecting nests the nodes in as many arrays as there are wildcards; `flatten?` takes that many levels
off again and gives the nodes of the hits (`flatten?_select`).  A path selects nothing at all exactly
if the hops before its first wildcard lead nowhere, or to a node that has no children
(`select_ne_none_iff`).
-/

namespace ApiCheck.Response

/-! ### Hops -/

namespace Hop

/-- Of two hops from one value the first comes before the second. -/
inductive Before : Hop → Hop → Prop
  | key {k l : String} (h : k < l) : Before (.key k) (.key l)
  | index {i j : Nat} (h : i < j) : Before (.index i) (.index j)

theorem before_irrefl (hop : Hop) : ¬ Before hop hop := by
  rintro (h | h)
  · exact String.lt_irrefl _ h
  · exact Nat.lt_irrefl _ h

end Hop

/-- A hop leads from a well-formed value to a well-formed one. -/
theorem wellFormed_of_node? {hop : Hop} {v child : Json} (hv : v.WellFormed)
    (h : hop.node? v = some child) : child.WellFormed := by
  cases hop with
  | key name =>
    cases v with
    | object members =>
      rw [Json.WellFormed] at hv
      exact Json.wellFormedMembers_iff.mp hv.2 name child (Fields.mem_of_get? h)
    | null | bool | number | string | array => cases h
  | index i =>
    cases v with
    | array items =>
      rw [Json.WellFormed] at hv
      exact Json.wellFormedItems_iff.mp hv child (List.mem_of_getElem? h)
    | null | bool | number | string | object => cases h

/-! ### Fitting routes -/

/-- A hop may stand for a segment. -/
def Segment.Admits : Segment → Hop → Prop
  | .wildcard, _ => True
  | segment, hop => segment = hop.segment

/-- The route has a hop for every segment of a path. -/
def Fits (ss : List Segment) (route : List Hop) : Prop :=
  List.Forall₂ Segment.Admits ss route

/-! ### Hits -/

/-- A hop with the node to which it leads, if it leads to one. -/
def Hop.next (hop : Hop) (v : Json) : List (Hop × Json) :=
  ((hop.node? v).map fun child => (hop, child)).toList

/-- The hops for a segment that lead from a value to a node, with the nodes. -/
def next : Segment → Json → List (Hop × Json)
  | .key name, v => (Hop.key name).next v
  | .index i, v => (Hop.index i).next v
  | .wildcard, .array items => items.zipIdx.map fun (child, i) => (.index i, child)
  | .wildcard, .object members => members.map fun (name, child) => (.key name, child)
  | .wildcard, _ => []

/-- The routes that fit a path and lead from a value to a node, with the nodes. -/
def hits : List Segment → Json → List (List Hop × Json)
  | [], v => [([], v)]
  | s :: ss, v =>
    (next s v).flatMap fun (hop, child) =>
      (hits ss child).map fun (route, w) => (hop :: route, w)

theorem admits_key {name : String} {hop : Hop} :
    (Segment.key name).Admits hop ↔ hop = .key name := by
  cases hop with
  | key name' => simp [Segment.Admits, Hop.segment, eq_comm]
  | index i => simp [Segment.Admits, Hop.segment]

theorem admits_index {i : Nat} {hop : Hop} : (Segment.index i).Admits hop ↔ hop = .index i := by
  cases hop with
  | key name => simp [Segment.Admits, Hop.segment]
  | index j => simp [Segment.Admits, Hop.segment, eq_comm]

theorem Hop.mem_next {hop hop' : Hop} {v child : Json} :
    (hop', child) ∈ hop.next v ↔ hop' = hop ∧ hop'.node? v = some child := by
  rw [Hop.next, Option.mem_toList, Option.map_eq_some_iff]
  constructor
  · rintro ⟨_, hchild, heq⟩
    obtain ⟨rfl, rfl⟩ := Prod.mk.inj heq
    exact ⟨rfl, hchild⟩
  · rintro ⟨rfl, hchild⟩
    exact ⟨child, hchild, rfl⟩

theorem mem_next {s : Segment} {v child : Json} {hop : Hop} (hv : v.WellFormed) :
    (hop, child) ∈ next s v ↔ s.Admits hop ∧ hop.node? v = some child := by
  cases s with
  | key name => rw [admits_key, next, Hop.mem_next]
  | index i => rw [admits_index, next, Hop.mem_next]
  | wildcard =>
    refine Iff.trans ?_ (and_iff_right trivial).symm
    cases v with
    | array items =>
      rw [next, List.mem_map]
      constructor
      · rintro ⟨⟨item, i⟩, hitem, heq⟩
        obtain ⟨rfl, rfl⟩ := Prod.mk.inj heq
        exact List.mem_zipIdx_iff_getElem?.mp hitem
      · intro hchild
        cases hop with
        | key name => cases hchild
        | index i => exact ⟨(child, i), List.mem_zipIdx_iff_getElem?.mpr hchild, rfl⟩
    | object members =>
      -- The keys of an object are different, so that every member is the one of its key.
      rw [Json.WellFormed] at hv
      rw [next, List.mem_map]
      constructor
      · rintro ⟨⟨name, value⟩, hvalue, heq⟩
        obtain ⟨rfl, rfl⟩ := Prod.mk.inj heq
        exact hv.1.get?_eq_some_iff.mpr hvalue
      · intro hchild
        cases hop with
        | key name => exact ⟨(name, child), hv.1.get?_eq_some_iff.mp hchild, rfl⟩
        | index i => cases hchild
    | null | bool | number | string =>
      refine iff_of_false List.not_mem_nil fun hchild => ?_
      cases hop <;> cases hchild

theorem mem_hits_cons {s : Segment} {ss : List Segment} {v w : Json} {hop : Hop}
    {route : List Hop} :
    (hop :: route, w) ∈ hits (s :: ss) v ↔
      ∃ child, (hop, child) ∈ next s v ∧ (route, w) ∈ hits ss child := by
  simp only [hits, List.mem_flatMap, List.mem_map, Prod.exists, Prod.mk.injEq, List.cons.injEq]
  constructor
  · rintro ⟨_, child, hnext, _, _, hhits, ⟨rfl, rfl⟩, rfl⟩
    exact ⟨child, hnext, hhits⟩
  · rintro ⟨child, hnext, hhits⟩
    exact ⟨hop, child, hnext, route, w, hhits, ⟨rfl, rfl⟩, rfl⟩

theorem nil_not_mem_hits {s : Segment} {ss : List Segment} {v w : Json} :
    ([], w) ∉ hits (s :: ss) v := by
  simp [hits]

/-- **Hits** are the fitting routes that lead to a node. -/
theorem mem_hits {ss : List Segment} {v w : Json} {route : List Hop} (hv : v.WellFormed) :
    (route, w) ∈ hits ss v ↔ Fits ss route ∧ Leads route v w := by
  induction ss generalizing v route with
  | nil =>
    rw [hits, List.mem_singleton, Prod.mk.injEq, Fits, List.forall₂_nil_left_iff]
    constructor
    · rintro ⟨rfl, rfl⟩
      exact ⟨rfl, .here w⟩
    · rintro ⟨rfl, hleads⟩
      exact ⟨rfl, (leads_nil.mp hleads).symm⟩
  | cons s ss ih =>
    cases route with
    | nil =>
      refine iff_of_false nil_not_mem_hits ?_
      rintro ⟨hfits, -⟩
      cases hfits
    | cons hop route =>
      rw [mem_hits_cons, Fits, List.forall₂_cons, leads_cons]
      constructor
      · rintro ⟨child, hnext, hhits⟩
        -- The child is well-formed too, so that its hits are those that fit.
        obtain ⟨hadmits, hchild⟩ := (mem_next hv).mp hnext
        obtain ⟨hfits, hleads⟩ := (ih (wellFormed_of_node? hv hchild)).mp hhits
        exact ⟨⟨hadmits, hfits⟩, child, hchild, hleads⟩
      · rintro ⟨⟨hadmits, hfits⟩, child, hchild, hleads⟩
        have hwell := wellFormed_of_node? hv hchild
        exact ⟨child, (mem_next hv).mpr ⟨hadmits, hchild⟩, (ih hwell).mpr ⟨hfits, hleads⟩⟩

/-! ### Their order -/

theorem Hop.pairwise_next (hop : Hop) (v : Json) :
    (hop.next v).Pairwise fun p q => p.1.Before q.1 := by
  rw [Hop.next]
  cases hop.node? v with
  | none => exact .nil
  | some child => exact List.pairwise_singleton _ _

theorem pairwise_next {s : Segment} {v : Json} (hv : v.WellFormed) :
    (next s v).Pairwise fun p q => p.1.Before q.1 := by
  cases s with
  | key name => exact Hop.pairwise_next _ v
  | index i => exact Hop.pairwise_next _ v
  | wildcard =>
    cases v with
    | array items =>
      have hindices : (items.zipIdx.map Prod.snd).Pairwise (· < ·) := by
        rw [List.zipIdx_map_snd]
        exact List.pairwise_lt_range'
      rw [next, List.pairwise_map]
      exact (List.pairwise_map.mp hindices).imp fun hlt => .index hlt
    | object members =>
      rw [Json.WellFormed] at hv
      rw [next, List.pairwise_map]
      exact (List.pairwise_map.mp hv.1).imp fun hlt => .key hlt
    | null | bool | number | string => exact .nil

theorem pairwise_hits {ss : List Segment} {v : Json} (hv : v.WellFormed) :
    (hits ss v).Pairwise fun p q => List.Lex Hop.Before p.1 q.1 := by
  induction ss generalizing v with
  | nil => exact List.pairwise_singleton _ _
  | cons s ss ih =>
    -- Behind one hop the rest of the routes decides, behind two the hops themselves.
    rw [hits, List.pairwise_flatMap]
    constructor
    · rintro ⟨hop, child⟩ hnext
      have hchild := wellFormed_of_node? hv ((mem_next hv).mp hnext).2
      exact List.pairwise_map.mpr ((ih hchild).imp fun hlex => .cons hlex)
    · refine (pairwise_next hv).imp ?_
      rintro ⟨hop, child⟩ ⟨hop', child'⟩ hbefore p hp q hq
      obtain ⟨⟨route, w⟩, -, rfl⟩ := List.mem_map.mp hp
      obtain ⟨⟨route', w'⟩, -, rfl⟩ := List.mem_map.mp hq
      exact .rel hbefore

theorem not_lex_self (route : List Hop) : ¬ List.Lex Hop.Before route route := by
  induction route with
  | nil => rintro ⟨⟩
  | cons hop route ih =>
    rintro (_ | hbefore | hlex)
    · exact hop.before_irrefl hbefore
    · exact ih hlex

/-! ### What is selected -/

/-- The values in an array of arrays, `n` levels deep; none where a level holds another value. -/
def flatten? : Nat → Json → Option (List Json)
  | 0, v => some [v]
  | n + 1, .array items => (items.mapM (flatten? n)).map List.flatten
  | _ + 1, _ => none

/-- Values that are selected from some items are flattened item by item. -/
theorem flatten_filterMap {xs : List Json} {f : Json → Option Json}
    {g : Json → Option (List Json)} {leaves : Json → List Json}
    (hsome : ∀ x y, f x = some y → g y = some (leaves x))
    (hnone : ∀ x, f x = none → leaves x = []) :
    ((xs.filterMap f).mapM g).map List.flatten = some (xs.flatMap leaves) := by
  induction xs with
  | nil => rfl
  | cons x xs ih =>
    obtain ⟨rest, hrest, hflatten⟩ := Option.map_eq_some_iff.mp ih
    cases hx : f x with
    | none => rw [List.filterMap_cons_none hx, List.flatMap_cons, hnone x hx, ih, List.nil_append]
    | some y =>
      rw [List.filterMap_cons_some hx, List.mapM_cons, hsome x y hx, hrest, List.flatMap_cons,
        ← hflatten]
      rfl

theorem next_segment (hop : Hop) (v : Json) : next hop.segment v = hop.next v := by
  cases hop <;> rfl

theorem segment_ne_wildcard (hop : Hop) : hop.segment ≠ .wildcard := by
  cases hop <;> rintro ⟨⟩

theorem eq_wildcard_or (s : Segment) : s = .wildcard ∨ ∃ hop : Hop, s = hop.segment := by
  cases s with
  | key name => exact .inr ⟨.key name, rfl⟩
  | index i => exact .inr ⟨.index i, rfl⟩
  | wildcard => exact .inl rfl

theorem hits_segment {hop : Hop} {ss : List Segment} {v : Json} :
    (hits (hop.segment :: ss) v).map Prod.snd =
      (hop.node? v).toList.flatMap fun child => (hits ss child).map Prod.snd := by
  rw [hits, next_segment, Hop.next]
  cases hop.node? v with
  | none => rfl
  | some child =>
    simp only [Option.map_some, Option.toList_some, List.flatMap_singleton, List.map_map]
    rfl

theorem next_wildcard {v : Json} {vs : List Json} (h : children? v = some vs) :
    (next .wildcard v).map Prod.snd = vs := by
  cases v with
  | array items =>
    obtain rfl := Option.some.inj h
    rw [next, List.map_map]
    exact List.zipIdx_map_fst 0 items
  | object members =>
    obtain rfl := Option.some.inj h
    rw [next, List.map_map]
    rfl
  | null | bool | number | string => cases h

theorem hits_wildcard {ss : List Segment} {v : Json} {vs : List Json} (h : children? v = some vs) :
    (hits (.wildcard :: ss) v).map Prod.snd =
      vs.flatMap fun child => (hits ss child).map Prod.snd := by
  rw [hits, List.map_flatMap, ← next_wildcard h, List.flatMap_map]
  refine congrArg (List.flatMap · _) (funext fun p => ?_)
  rw [List.map_map]
  rfl

theorem hits_of_select_eq_none {ss : List Segment} {v : Json} (h : select ss v = none) :
    (hits ss v).map Prod.snd = [] := by
  induction ss generalizing v with
  | nil => cases h
  | cons s ss ih =>
    rcases eq_wildcard_or s with rfl | ⟨hop, rfl⟩
    · rw [select, Option.map_eq_none_iff] at h
      cases v with
      | array items => cases h
      | object members => cases h
      | null | bool | number | string => rfl
    · rw [select_segment] at h
      rw [hits_segment]
      cases hchild : hop.node? v with
      | none => rfl
      | some child =>
        rw [hchild] at h
        rw [Option.toList_some, List.flatMap_singleton]
        exact ih h

/-- What a path selects, less one level of arrays for every wildcard, are the nodes of its hits. -/
theorem flatten?_select {ss : List Segment} {v r : Json} (h : select ss v = some r) :
    flatten? (ss.count .wildcard) r = some ((hits ss v).map Prod.snd) := by
  induction ss generalizing v r with
  | nil =>
    obtain rfl := Option.some.inj h
    rfl
  | cons s ss ih =>
    rcases eq_wildcard_or s with rfl | ⟨hop, rfl⟩
    · obtain ⟨vs, hvs, rfl⟩ := Option.map_eq_some_iff.mp h
      rw [List.count_cons_self, hits_wildcard hvs, flatten?]
      -- A child of which nothing is selected is left out, and it has no hits either.
      exact flatten_filterMap (fun x y hy => ih hy) fun x hx => hits_of_select_eq_none hx
    · rw [select_segment] at h
      obtain ⟨child, hchild, hselect⟩ := Option.bind_eq_some_iff.mp h
      rw [List.count_cons_of_ne (segment_ne_wildcard hop), hits_segment, hchild,
        Option.toList_some, List.flatMap_singleton]
      exact ih hselect

/-! ### When nothing is selected -/

/-- The hops before the first wildcard of a path. -/
def leading : List Segment → List Hop
  | .key name :: ss => .key name :: leading ss
  | .index i :: ss => .index i :: leading ss
  | .wildcard :: _ => []
  | [] => []

theorem leading_segment (hop : Hop) (ss : List Segment) :
    leading (hop.segment :: ss) = hop :: leading ss := by
  cases hop <;> rfl

/-- An array or an object. -/
inductive Composite : Json → Prop
  | array (items : List Json) : Composite (.array items)
  | object (members : Fields Json) : Composite (.object members)

theorem children?_ne_none_iff {v : Json} : children? v ≠ none ↔ Composite v := by
  cases v with
  | array items => exact iff_of_true (Option.some_ne_none _) (.array items)
  | object members => exact iff_of_true (Option.some_ne_none _) (.object members)
  | null | bool | number | string =>
    refine iff_of_false (fun h => h rfl) ?_
    rintro ⟨⟩

/-- A path selects something exactly if the hops before its first wildcard lead to a node, and the
wildcard finds an array or an object there. -/
theorem select_ne_none_iff {ss : List Segment} {v : Json} :
    select ss v ≠ none ↔
      ∃ node, Leads (leading ss) v node ∧ (.wildcard ∈ ss → Composite node) := by
  induction ss generalizing v with
  | nil => exact iff_of_true (Option.some_ne_none _) ⟨v, .here v, fun h => by cases h⟩
  | cons s ss ih =>
    rcases eq_wildcard_or s with rfl | ⟨hop, rfl⟩
    · rw [select, Ne, Option.map_eq_none_iff, ← Ne, children?_ne_none_iff, leading]
      constructor
      · intro hcomposite
        exact ⟨v, .here v, fun _ => hcomposite⟩
      · rintro ⟨node, hleads, hcomposite⟩
        obtain rfl := leads_nil.mp hleads
        exact hcomposite List.mem_cons_self
    · simp only [select_segment, leading_segment, leads_cons, List.mem_cons,
        (segment_ne_wildcard hop).symm, false_or]
      cases hchild : hop.node? v with
      | none => simp
      | some child => simpa using ih

/-- **What a wildcard selects**.  A path selects nothing exactly if the hops before its first wildcard
lead to no node, or if there is a wildcard and the node is neither an array nor an object.  Otherwise
the value that it selects has one level of arrays for every wildcard; the values under them are the
nodes to which the fitting routes lead, one for each route that leads to a node, in the order of the
routes.  Every value that is read is well-formed (`Json.wellFormed_of_parse?`). -/
theorem select_wildcards (ss : List Segment) (v : Json) (hv : v.WellFormed) :
    (select ss v = none ↔
      ¬ ∃ node, Leads (leading ss) v node ∧ (.wildcard ∈ ss → Composite node)) ∧
    (∀ r, select ss v = some r → ∃ routes leaves,
      flatten? (ss.count .wildcard) r = some leaves ∧
      List.Forall₂ (fun route leaf => Leads route v leaf) routes leaves ∧
      (∀ route, route ∈ routes ↔ Fits ss route ∧ ∃ leaf, Leads route v leaf) ∧
      routes.Pairwise (List.Lex Hop.Before) ∧ routes.Nodup) := by
  refine ⟨by rw [← select_ne_none_iff, not_not], fun r hr => ?_⟩
  have hlex := List.pairwise_map.mpr (@pairwise_hits ss v hv)
  refine ⟨(hits ss v).map Prod.fst, (hits ss v).map Prod.snd, flatten?_select hr, ?_, ?_, hlex, ?_⟩
  · rw [List.forall₂_map_left_iff, List.forall₂_map_right_iff, List.forall₂_same]
    exact fun p hp => ((mem_hits hv).mp hp).2
  · intro route
    simp only [List.mem_map, Prod.exists, exists_and_right, exists_eq_right, mem_hits hv,
      exists_and_left]
  · refine hlex.imp ?_
    rintro route _ hroute rfl
    exact not_lex_self route hroute

/-- Rows of which one is an object and one no row at all. -/
def rows : Json :=
  .object [("m", .array [.array [.ofNat 1, .null], .object [("k", .ofNat 2)], .ofNat 3])]

/-- Two wildcards over mixed rows: the scalar is dropped, the `null` in a row is kept. -/
theorem select_wildcards_rows :
    let ss : List Segment := [.key "m", .wildcard, .wildcard]
    let r : Json := .array [.array [.ofNat 1, .null], .array [.ofNat 2]]
    rows.WellFormed ∧ select ss rows = some r ∧
      ∃ routes leaves, flatten? 2 r = some leaves ∧
        List.Forall₂ (fun route leaf => Leads route rows leaf) routes leaves ∧
        (∀ route, route ∈ routes ↔ Fits ss route ∧ ∃ leaf, Leads route rows leaf) ∧
        routes.Pairwise (List.Lex Hop.Before) ∧ routes.Nodup := by
  intro ss r
  have hwell : rows.WellFormed := by
    simp [rows, Json.WellFormed, Json.WellFormedItems, Json.WellFormedMembers, Fields.Ordered,
      Fields.keys, Json.ofNat, Number.InRange]
  have hselect : select ss rows = some r := rfl
  exact ⟨hwell, hselect, (select_wildcards ss rows hwell).2 r hselect⟩

end ApiCheck.Response
