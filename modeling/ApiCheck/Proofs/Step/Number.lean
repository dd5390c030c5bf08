import ApiCheck.Proofs.Operand.Spelling
import ApiCheck.Proofs.Step.Capture

/-!
# Comparing a node with the text of an integer

The text of an integer spells that integer if it has sixty-four bits and a sign
(`Operand.numberOfText?_of_lt`).  The text of a greater one is read as a double, so that the integer is
rounded before it is compared (`Operand.numberOfText?_of_le`).  A step that compares an integer node
with such a text also passes on another integer that is rounded to the same double (`Number.Merged`);
on all other pairs it is exact (`Step.shouldBeNumber_toString`).
-/

namespace ApiCheck

/-! ### Integers that are not told apart -/

/-- Two different integers with one nearest double, the second too great for sixty-four bits with a
sign. -/
structure Number.Merged (n m : ℤ) : Prop where
  ne : n ≠ m
  wide : 2 ^ 63 ≤ m
  nearest : ∃ x : FiniteDouble, x.NearestTo n ∧ x.NearestTo m

namespace Number

variable {n m : ℤ}

theorem abs_sub_le_of_nearestTo (hn : InRange n) {x : FiniteDouble} (h : x.NearestTo n) :
    |(n : ℚ) - x.value| ≤ 2 ^ 10 := by
  obtain ⟨y, hy⟩ := Double.exists_ofInt (natAbs_le_of_inRange hn)
  have hvalue : y.value = x.value := (Double.nearestTo_of_ofInt hy).unique h
  rw [← hvalue]
  obtain ⟨hlow, hhigh⟩ := hn
  exact Double.abs_sub_le_of_ofInt (by omega) hy

/-- Integers that are not told apart lie close to each other. -/
theorem Merged.distance_le (h : Merged n m) (hn : InRange n) (hm : InRange m) :
    |n - m| ≤ 2 ^ 11 := by
  obtain ⟨x, hxn, hxm⟩ := h.nearest
  have hfirst := abs_sub_le_of_nearestTo hn hxn
  have hsecond := abs_sub_le_of_nearestTo hm hxm
  rw [abs_sub_comm] at hsecond
  have hsum : |(n : ℚ) - m| ≤ 2 ^ 11 := by
    calc |(n : ℚ) - m| ≤ |(n : ℚ) - x.value| + |x.value - m| := abs_sub_le _ _ _
      _ ≤ 2 ^ 10 + 2 ^ 10 := add_le_add hfirst hsecond
      _ = 2 ^ 11 := by norm_num
  exact_mod_cast hsum

/-- An integer equals what is spelled by the text of another one only if they are not told apart. -/
theorem strictEq_numberOfText?_iff (hn : InRange n) (hm : InRange m) {k : Number}
    (hk : Operand.numberOfText? (toString m) = some k) :
    strictEq (.integer n) k = true ↔ n = m ∨ Merged n m := by
  by_cases hwide : m < 2 ^ 63
  · rw [Operand.numberOfText?_of_lt hm.1 hwide] at hk
    obtain rfl := Option.some.inj hk
    have hexact : strictEq (.integer n) (.integer m) = true ↔ n = m := beq_iff_eq
    rw [hexact]
    refine ⟨.inl, fun h => h.resolve_right fun hmerged => ?_⟩
    exact absurd hmerged.wide (not_le.mpr hwide)
  · obtain ⟨x, hx, hspelled⟩ := Operand.numberOfText?_of_le hm (not_lt.mp hwide)
    rw [hspelled] at hk
    obtain rfl := Option.some.inj hk
    have hnearest : x.NearestTo m := Double.nearestTo_of_ofInt hx
    rw [strictEq_integer_real hn]
    constructor
    · intro h
      by_cases hne : n = m
      · exact .inl hne
      · exact .inr ⟨hne, not_lt.mp hwide, x, h, hnearest⟩
    · rintro (rfl | hmerged)
      · exact hnearest
      · -- The double of which they both are nearest has the value of the one that is read.
        obtain ⟨y, hyn, hym⟩ := hmerged.nearest
        exact hyn.congr (hym.unique hnearest)

theorem exists_numberOfText? (hm : InRange m) :
    ∃ k, Operand.numberOfText? (toString m) = some k := by
  by_cases hwide : m < 2 ^ 63
  · exact ⟨_, Operand.numberOfText?_of_lt hm.1 hwide⟩
  · obtain ⟨x, -, hspelled⟩ := Operand.numberOfText?_of_le hm (not_lt.mp hwide)
    exact ⟨_, hspelled⟩

end Number

/-! ### The step -/

namespace Step

/-- The text of an integer refers to nothing. -/
theorem resolve_toString (c : Context) (m : ℤ) :
    c.resolve (toString m) = .ok (.ofString (toString m)) := by
  refine resolve_of_key?_eq_none (Template.key?_of_not_closes fun hcloses => ?_)
  have hbrace : '}' ∈ (toString m).toList := hcloses.subset List.mem_cons_self
  rcases mem_toString hbrace with hminus | hdigit
  · exact absurd hminus (by decide)
  · exact absurd hdigit (by decide)

/-- A step that compares an integer node with the text of an integer passes exactly if these are equal
or not told apart. -/
theorem result_shouldBeNumber_toString {c : Context} {r : Response} {path : String} {n m : ℤ}
    (hresponse : c.response = some r)
    (hpath : r.findInBody path = .ok (.json (.number (.integer n))))
    (hn : Number.InRange n) (hm : Number.InRange m) :
    ((Step.shouldBeNumber path (toString m)).execute c).result = .ok () ↔
      n = m ∨ Number.Merged n m := by
  obtain ⟨k, hk⟩ := Number.exists_numberOfText? hm
  have hplan : (Step.shouldBeNumber path (toString m)).plan c =
      .ok (.checks [nodeCheck r path (.json (.number (.integer n)))
        (Operand.ofString (toString m)).coerceNumber]) :=
    bind_eq_ok.mpr ⟨r, needResponse_eq_ok.mpr hresponse,
      bind_eq_ok.mpr ⟨_, resolve_toString c m, bind_eq_ok.mpr ⟨_, mapError_eq_ok.mpr hpath, rfl⟩⟩⟩
  rw [result_execute_nodeCheck hplan, Operand.coerceNumber_ofString, hk]
  exact Number.strictEq_numberOfText?_iff hn hm hk

/-- **Comparing an integer node with the text of an integer.**  The step passes exactly if the two
integers are equal, or if the second is too great for sixty-four bits with a sign and both are rounded
to one double.  So it is exact on two integers if and only if they are no such pair, and always where
the second has sixty-four bits and a sign.  Integers on which it passes differ by at most `2 ^ 11`. -/
theorem shouldBeNumber_toString (c : Context) (r : Response) (path : String) (n m : ℤ)
    (hresponse : c.response = some r)
    (hpath : r.findInBody path = .ok (.json (.number (.integer n))))
    (hn : Number.InRange n) (hm : Number.InRange m) :
    let passes := ((Step.shouldBeNumber path (toString m)).execute c).result = .ok ()
    (passes ↔ n = m ∨ Number.Merged n m) ∧
    ((passes ↔ n = m) ↔ ¬ Number.Merged n m) ∧
    (m < 2 ^ 63 → (passes ↔ n = m)) ∧
    (passes → |n - m| ≤ 2 ^ 11) := by
  intro passes
  have hpasses : passes ↔ n = m ∨ Number.Merged n m :=
    result_shouldBeNumber_toString hresponse hpath hn hm
  have hexact : (passes ↔ n = m) ↔ ¬ Number.Merged n m := by
    rw [hpasses]
    exact ⟨fun h hmerged => hmerged.ne (h.mp (.inr hmerged)),
      fun h => ⟨fun hor => hor.resolve_right h, .inl⟩⟩
  refine ⟨hpasses, hexact, fun hlt => ?_, fun hok => ?_⟩
  · exact hexact.mpr fun hmerged => absurd hmerged.wide (not_le.mpr hlt)
  · rcases hpasses.mp hok with rfl | hmerged
    · rw [sub_self, abs_zero]
      positivity
    · exact hmerged.distance_le hn hm

/-- A response with an integer under `id`. -/
def withId (n : ℤ) : Response where
  label := "[GET /]"
  status := 200
  headers := []
  body := some (.object [("id", .number (.integer n))])

theorem findInBody_withId (n : ℤ) :
    (withId n).findInBody "id" = .ok (.json (.number (.integer n))) := by
  have hsegments : Response.segments "id" = .ok [.key "id"] := by decide +kernel
  simp only [Response.findInBody, withId, hsegments]
  rfl

/-- The greatest integer of sixty-four bits with a sign is told apart from the next integer. -/
theorem shouldBeNumber_greatest :
    let n : ℤ := 2 ^ 63
    let m : ℤ := 2 ^ 63 - 1
    let c : Context := { response := some (withId n), now := ⟨0, 0, 0⟩ }
    (withId n).findInBody "id" = .ok (.json (.number (.integer n))) ∧
      Number.InRange n ∧ Number.InRange m ∧
      ((Step.shouldBeNumber "id" (toString m)).execute c).result ≠ .ok () := by
  intro n m c
  have hn : Number.InRange n := by decide
  have hm : Number.InRange m := by decide
  obtain ⟨-, -, hexact, -⟩ :=
    shouldBeNumber_toString c (withId n) "id" n m rfl (findInBody_withId n) hn hm
  refine ⟨findInBody_withId n, hn, hm, fun hok => ?_⟩
  exact absurd ((hexact (by decide)).mp hok) (by decide)

/-- The next two integers are not told apart. -/
theorem shouldBeNumber_passes_on_another :
    let n : ℤ := 2 ^ 63
    let m : ℤ := 2 ^ 63 + 1
    let c : Context := { response := some (withId n), now := ⟨0, 0, 0⟩ }
    (withId n).findInBody "id" = .ok (.json (.number (.integer n))) ∧
      Number.InRange n ∧ Number.InRange m ∧ n ≠ m ∧
      ((Step.shouldBeNumber "id" (toString m)).execute c).result = .ok () := by
  intro n m c
  have hn : Number.InRange n := by decide
  have hm : Number.InRange m := by decide
  have hne : n ≠ m := by decide
  obtain ⟨x, hx⟩ := Double.exists_ofInt (Number.natAbs_le_of_inRange hn)
  have hround : Double.ofInt m = Double.ofInt n := by decide +kernel
  have hmerged : Number.Merged n m := by
    refine ⟨hne, by decide, x, Double.nearestTo_of_ofInt hx, Double.nearestTo_of_ofInt ?_⟩
    rw [hround, hx]
  exact ⟨findInBody_withId n, hn, hm, hne,
    (result_shouldBeNumber_toString rfl (findInBody_withId n) hn hm).mpr (.inr hmerged)⟩

end Step

end ApiCheck
