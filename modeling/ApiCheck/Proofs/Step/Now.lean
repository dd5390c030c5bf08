import ApiCheck.Proofs.Step.Length
import ApiCheck.Proofs.Time.Timestamp

/-!
# What is close to now

A step that asks for the current time passes on a timestamp whose distance from it is within the
tolerance, the bound included.  The tolerance of a check has a greatest value, but no distance of two
instants reaches it (`Context.isNow_iff`), so that every configured tolerance is judged as it stands.

`Step.shouldBeNow_verdict` states the verdict in nanoseconds: away from leap seconds the step passes
exactly if the size of the difference of the two instants is at most the tolerance.
-/

namespace ApiCheck

namespace Context

/-- The tolerance that is configured, or a minute where no configuration was injected. -/
def configuredMs (c : Context) : ℕ :=
  c.config.elim 60000 fun config => config.val.settings.nowToleranceMs

theorem nowToleranceMs_settings (c : Context) : c.settings.nowToleranceMs = c.configuredMs := by
  rw [settings, configuredMs]
  cases c.config with
  | none => rfl
  | some config => rfl

/-- No instant is so far from now that the greatest tolerance matters. -/
theorem distance_le_toleranceMs_iff {c : Context} {t : Time.Instant} (ht : t.InRange)
    (hnow : c.now.InRange) :
    t.distance c.now ≤ c.settings.toleranceMs * 1000000 ↔
      t.distance c.now ≤ c.configuredMs * 1000000 := by
  have hdistance := ht.distance_le hnow
  rw [Settings.toleranceMs, Settings.maxToleranceMs, nowToleranceMs_settings]
  omega

/-- What is close to now is a timestamp within the configured tolerance. -/
theorem isNow_iff {c : Context} {x : Operand} (hnow : c.now.InRange) :
    c.isNow x = true ↔
      ∃ t, Time.ofOperand? x = some t ∧ t.distance c.now ≤ c.configuredMs * 1000000 := by
  rw [isNow, Option.any_eq_true]
  refine exists_congr fun t => and_congr_right fun ht => ?_
  rw [decide_eq_true_eq, distance_le_toleranceMs_iff (Time.inRange_of_ofOperand? ht) hnow]

end Context

namespace Step

theorem holds_isTrue {condition : Bool} {message : String} :
    (Check.isTrue condition message).holds = true ↔ condition = true := by
  show (condition == true) = true ↔ condition = true
  rw [beq_iff_eq]

/-- The step passes if there is a response and the value at the path is close to now. -/
theorem result_shouldBeNow {c : Context} {path : String} :
    ((Step.shouldBeNow path).execute c).result = .ok () ↔
      ∃ r, c.response = some r ∧ ∃ x, r.findInBody path = .ok x ∧ c.isNow x = true := by
  rw [result_of_plan_eq_checkAt (s := .shouldBeNow path) rfl]
  simp only [holds_isTrue]
  rfl

/-- Where the value at the path is known, the step passes if it is a timestamp within the tolerance. -/
theorem result_shouldBeNow_of_located {c : Context} {r : Response} {path : String} {x : Operand}
    (hresponse : c.response = some r) (hpath : r.findInBody path = .ok x) (hnow : c.now.InRange) :
    ((Step.shouldBeNow path).execute c).result = .ok () ↔
      ∃ t, Time.ofOperand? x = some t ∧ t.distance c.now ≤ c.configuredMs * 1000000 := by
  rw [result_shouldBeNow, ← Context.isNow_iff hnow]
  constructor
  · rintro ⟨r', hr', x', hx', hclose⟩
    obtain rfl := Option.some.inj (hresponse.symm.trans hr')
    obtain rfl := Except.ok.inj (hpath.symm.trans hx')
    exact hclose
  · exact fun hclose => ⟨r, hresponse, x, hpath, hclose⟩

/-- **Close to now.**  Where a value is found at the path, the step passes exactly if that value is a
timestamp and its distance from the current time is at most the tolerance, which is the configured
one, or a minute.  If no leap second is involved, the distance is the size of the difference in
nanoseconds, before and after the current time alike.  From `2 ^ 63` milliseconds on every timestamp
passes, and what passes under a configuration passes under each that tolerates no less. -/
theorem shouldBeNow_verdict (c : Context) (r : Response) (path : String) (x : Operand)
    (hresponse : c.response = some r) (hpath : r.findInBody path = .ok x) (hnow : c.now.InRange) :
    let tolerance : ℕ := c.configuredMs
    let passes (c : Context) : Prop := ((Step.shouldBeNow path).execute c).result = .ok ()
    (passes c ↔ ∃ t, Time.ofOperand? x = some t ∧ t.distance c.now ≤ tolerance * 1000000) ∧
    (¬ c.now.IsLeap → (∀ t, Time.ofOperand? x = some t → ¬ t.IsLeap) →
      (passes c ↔ ∃ t, Time.ofOperand? x = some t ∧
        |c.now.nanos - t.nanos| ≤ (tolerance : ℤ) * 1000000)) ∧
    (2 ^ 63 ≤ tolerance → (passes c ↔ ∃ t, Time.ofOperand? x = some t)) ∧
    (∀ config : Option ValidConfig, tolerance ≤ ({ c with config := config } : Context).configuredMs →
      passes c → passes { c with config := config }) := by
  intro tolerance passes
  have hverdict : passes c ↔
      ∃ t, Time.ofOperand? x = some t ∧ t.distance c.now ≤ tolerance * 1000000 :=
    result_shouldBeNow_of_located hresponse hpath hnow
  refine ⟨hverdict, fun hleap hleaps => ?_, fun hgreat => ?_, fun config hle hpasses => ?_⟩
  · rw [hverdict]
    refine exists_congr fun t => and_congr_right fun ht => ?_
    rw [abs_sub_comm, ← Time.Instant.distance_eq (hleaps t ht) hleap]
    omega
  · rw [hverdict]
    refine exists_congr fun t => and_iff_left_of_imp fun ht => ?_
    have hdistance := (Time.inRange_of_ofOperand? ht).distance_le hnow
    exact hdistance.trans (by omega)
  · obtain ⟨t, ht, hdistance⟩ := hverdict.mp hpasses
    have hlater := hdistance.trans (Nat.mul_le_mul_right 1000000 hle)
    exact (result_shouldBeNow_of_located (c := { c with config := config }) hresponse hpath
      hnow).mpr ⟨t, ht, hlater⟩

/-- A response with a timestamp under `at`. -/
def withTimestamp : Response where
  label := "[GET /]"
  status := 200
  headers := []
  body := some (.object [("at", .string "2019-04-07T12:19:00+02:00")])

/-- A timestamp is close to the time a minute later, but not to that of the next nanosecond. -/
theorem shouldBeNow_minute :
    let x : Operand := .ofString "2019-04-07T12:19:00+02:00"
    let t : Time.Instant := ⟨17993, 37140, 0⟩
    let c : Context := { response := some withTimestamp, now := ⟨17993, 37200, 0⟩ }
    let later : Context := { c with now := ⟨17993, 37200, 1⟩ }
    withTimestamp.findInBody "at" = .ok x ∧ Time.ofOperand? x = some t ∧ ¬ t.IsLeap ∧
      c.now.InRange ∧ ¬ c.now.IsLeap ∧ later.now.InRange ∧ ¬ later.now.IsLeap ∧
      ((Step.shouldBeNow "at").execute c).result = .ok () ∧
      ((Step.shouldBeNow "at").execute later).result ≠ .ok () := by
  intro x t c later
  have hsegments : Response.segments "at" = .ok [.key "at"] := by decide +kernel
  have hpath : withTimestamp.findInBody "at" = .ok x := by
    simp only [Response.findInBody, withTimestamp, hsegments]
    rfl
  have hread : Time.ofOperand? x = some t := by decide +kernel
  have hleap : ¬ t.IsLeap := by decide
  have hleaps : ∀ t, Time.ofOperand? x = some t → ¬ t.IsLeap := by
    intro t' ht'
    rw [hread] at ht'
    obtain rfl := Option.some.inj ht'
    exact hleap
  have hnow : c.now.InRange := ⟨by decide +kernel, by decide +kernel, by decide, by decide⟩
  have hnow' : later.now.InRange := ⟨by decide +kernel, by decide +kernel, by decide, by decide⟩
  obtain ⟨-, hverdict, -, -⟩ := shouldBeNow_verdict c withTimestamp "at" x rfl hpath hnow
  obtain ⟨-, hverdict', -, -⟩ := shouldBeNow_verdict later withTimestamp "at" x rfl hpath hnow'
  refine ⟨hpath, hread, hleap, hnow, by decide, hnow', by decide, ?_, fun hpasses => ?_⟩
  · exact (hverdict (by decide) hleaps).mpr ⟨t, hread, by decide⟩
  · obtain ⟨t', ht', hdistance⟩ := (hverdict' (by decide) hleaps).mp hpasses
    rw [hread] at ht'
    obtain rfl := Option.some.inj ht'
    exact absurd hdistance (by decide)

end Step

end ApiCheck
