import Metering.Proofs.Registry.Recording

/-!
# Metering — who configures what counts

Whether metrics are switched on at all changes by `setEnabled` alone, and the levels by `setRoot` and
`setLevel`. Nothing else that one may ask of a registry touches the switch or a level, whether it
succeeds or not.

* `configuration` — the switch and the levels;
* `configuration_metric`, `configuration_remove`, … — the operations that leave them alone;
* `enabled_setRoot`, `enabled_setLevel` — the two that only move levels;
* `setEnabled_cases` — the one that moves the switch.
-/

namespace Metering.Registry

/-- What is configured: the switch and the levels. -/
def configuration (r : Registry) : Bool × LevelMap := (r.enabled, r.levels)

theorem enabled_eq_of_configuration {r r' : Registry} (h : r'.configuration = r.configuration) :
    r'.enabled = r.enabled := congrArg Prod.fst h

/-! ## Making metrics -/

theorem configuration_obtain (r : Registry) (name : String) (kind : Kind) (level : Level)
    (initial : Option Statistic) :
    (r.obtain name kind level initial).1.configuration = r.configuration := by
  rcases obtain_cases r name kind level initial with
    ⟨failure, h⟩ | ⟨id, i, h, -⟩ | ⟨s, h, -⟩
  · rw [h]
  · rw [h]
  · rw [h]
    rfl

theorem configuration_metric (r : Registry) (now : Instant) (measure : Measure) (name : String)
    (level : Level) (ancestors : List Level) :
    (r.metric now measure name level ancestors).1.configuration = r.configuration :=
  metric_keeps (P := fun now => now.configuration = r.configuration)
    (fun name level h => (configuration_obtain _ name _ level _).trans h) (fun _ _ h => h) name
    level ancestors rfl

theorem configuration_gauge (r : Registry) (name : String) (level : Level) (supplier : Supplier)
    (source : Nat) : (r.gauge name level supplier source).1.configuration = r.configuration := by
  rw [gauge, single_fst, configuration_obtain]

theorem configuration_cachedGauge (r : Registry) (name : String) (level : Level)
    (timeout : Duration) (supplier : Supplier) (source : Nat) :
    (r.cachedGauge name level timeout supplier source).1.configuration = r.configuration := by
  rw [cachedGauge, single_fst, configuration_obtain]

/-! ## Removing metrics -/

theorem configuration_removeMetric (r : Registry) (name : String) :
    (r.removeMetric name).1.configuration = r.configuration := by
  rw [removeMetric]
  split <;> rfl

theorem configuration_removeAll (names : List String) (r : Registry) :
    (r.removeAll names).1.configuration = r.configuration := by
  induction names generalizing r with
  | nil => rfl
  | cons name rest ih => exact (ih _).trans (configuration_removeMetric r name)

theorem configuration_remove (r : Registry) (name : String) :
    (r.remove name).1.configuration = r.configuration := by
  rw [remove]
  split
  · split
    · rfl
    · next members _ =>
      have hAll := configuration_removeAll members { r with groups := r.groups.erase name }
      dsimp only
      split <;> exact hAll
  · exact configuration_removeMetric r name

/-! ## Recording and reading -/

theorem configuration_update (r : Registry) (now : Instant) (h : Handle) (u : Update) :
    (r.update now h u).configuration = r.configuration := by
  rw [update_eq]
  rfl

theorem configuration_reading (r : Registry) (now : Instant) (h : Handle) :
    (r.reading now h).1.configuration = r.configuration := by
  rw [reading]
  split <;> rfl

/-! ## Configuring what counts -/

theorem enabled_refreshed (r : Registry) : r.refreshed.enabled = r.enabled := by
  rw [refreshed_eq]

theorem enabled_setRoot (r : Registry) (level : Level) :
    (r.setRoot level).1.enabled = r.enabled := by
  simp only [setRoot]
  split
  · rfl
  · exact enabled_refreshed _

theorem enabled_setLevel (r : Registry) (name : String) (level : Level) :
    (r.setLevel name level).1.enabled = r.enabled := by
  simp only [setLevel]
  split
  · split
    · rfl
    · exact enabled_refreshed _
  · rfl

/-- What there is to tell of a level is not told of the switch. -/
theorem channel_setRoot {r : Registry} {level : Level} {change : Change}
    (h : (r.setRoot level).2 = some change) : change.channel = .root := by
  simp only [setRoot] at h
  split at h
  · cases h
  · cases h
    rfl

theorem channel_setLevel {r r' : Registry} {name : String} {level : Level} {change : Change}
    (h : r.setLevel name level = (r', .ok (some change))) : change.channel = .metric := by
  simp only [setLevel] at h
  split at h
  · split at h
    · cases h
    · cases h
      rfl
  · cases h

/-- To move the switch to where it is changes nothing; otherwise there is a change to tell. -/
theorem setEnabled_cases (r : Registry) (on : Bool) :
    (r.enabled = on ∧ r.setEnabled on = (r, none)) ∨
    (r.enabled = !on ∧ ∃ r', r.setEnabled on = (r', some (.switch on)) ∧ r'.enabled = on) := by
  rw [setEnabled]
  split
  · next hSame => exact .inl ⟨hSame, rfl⟩
  · next hOther =>
    refine .inr ⟨?_, _, rfl, enabled_refreshed _⟩
    exact Bool.eq_not.mpr hOther

end Metering.Registry
