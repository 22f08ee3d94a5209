import Metering.Proofs.Registry.Binding
import Metering.Proofs.Statistic.Sources

/-!
# Metering — every gauge has a source of its own

Whoever asks for a gauge hands in a supplier, which becomes a source. The gauge that is made asks this
source and no other one; if the gauge is there already, nothing ever asks the source.

* `sourced_obtain`, `sourced_metric`, `sourced_single` — metrics that are made share no source;
* `statistics_remove`, `statistics_configured` — removals and what is configured change no statistic;
* `sourced_run` — no two statistics share a source after any run.
-/

namespace Metering

namespace Registry

variable {r : Registry}

/-! ## Making metrics -/

/-- A metric that is made may ask a source that is there and that nothing else asks. -/
theorem sourced_obtain {initial : Option Statistic} (h : r.statistics.Sourced)
    (hSource : ∀ s n, initial = some s → s.source? = some n →
      n < r.statistics.asked.length ∧ ∀ id, r.statistics.sourceAt? id ≠ some n)
    (name : String) (kind : Kind) (level : Level) :
    (r.obtain name kind level initial).1.statistics.Sourced := by
  rcases obtain_cases r name kind level initial with
    ⟨failure, hRefused⟩ | ⟨found, i, hFound, -⟩ | ⟨s, hMade, -, -, hInitial⟩
  · rw [hRefused]
    exact h
  · rw [hFound]
    exact h
  · rw [hMade, statistics_make]
    exact h.add fun n hn => hSource s n hInitial hn

/-- Only gauges ask anything. -/
theorem source?_blank {now : Instant} {measure : Measure} {s : Statistic}
    (h : r.blank now measure = some s) : s.source? = none := by
  cases measure with
  | counter | meter =>
    rw [← Option.some.inj h]
    rfl
  | histogram | timer =>
    rw [blank] at h
    split at h
    · rw [← Option.some.inj h]
      rfl
    · cases h

theorem sourced_metric (h : r.statistics.Sourced) (now : Instant) (measure : Measure)
    (name : String) (level : Level) (ancestors : List Level) :
    (r.metric now measure name level ancestors).1.statistics.Sourced := by
  refine metric_keeps (P := fun r => r.statistics.Sourced) ?_ (fun _ _ h => h) name level ancestors h
  intro r' member wanted h'
  refine sourced_obtain h' (fun s n hBlank hn => ?_) member measure.kind wanted
  rw [source?_blank hBlank] at hn
  cases hn

/-- A gauge that is made asks the source that was handed in for it. -/
theorem sourced_single {s : Statistic} (h : r.statistics.Sourced)
    (hSource : s.source? = some r.addSource.2) (name : String) (level : Level) :
    (r.addSource.1.obtain name s.kind level (some s)).1.statistics.Sourced := by
  obtain ⟨hAdded, hKnown, hFree⟩ := h.addSource
  have hStart : r.addSource.1.statistics.Sourced := hAdded
  refine sourced_obtain hStart (fun stat n hStat hn => ?_) name s.kind level
  rw [← Option.some.inj hStat, hSource] at hn
  rw [← Option.some.inj hn]
  exact ⟨hKnown, hFree⟩

/-! ## Everything else -/

theorem statistics_removeAll (names : List String) (r : Registry) :
    (r.removeAll names).1.statistics = r.statistics := by
  induction names generalizing r with
  | nil => rfl
  | cons first rest ih =>
    show ((r.removeMetric first).1.removeAll rest).1.statistics = _
    rw [ih, removeMetric_eq]
    split <;> rfl

/-- What was recorded outlasts the removal of its metric. -/
theorem statistics_remove (r : Registry) (name : String) :
    (r.remove name).1.statistics = r.statistics := by
  rcases remove_cases r name with ⟨-, h⟩ | ⟨fault, -, -, h⟩ | ⟨members, trail, found, -, -, h⟩
  · rw [h]
    exact statistics_removeAll [name] r
  · rw [h]
  · rw [h]
    exact statistics_removeAll members { r with groups := r.groups.erase name }

theorem statistics_configured (r : Registry) (on : Bool) (levels : LevelMap)
    (trail : List Notice) :
    ({ r with enabled := on, levels := levels, trail := trail } : Registry).refreshed.statistics =
      r.statistics := by
  rw [refreshed_eq]

theorem statistics_setEnabled (r : Registry) (on : Bool) :
    (r.setEnabled on).1.statistics = r.statistics := by
  rw [setEnabled]
  split
  · rfl
  · exact statistics_configured r on r.levels _

theorem statistics_setRoot (r : Registry) (level : Level) :
    (r.setRoot level).1.statistics = r.statistics := by
  simp only [setRoot]
  split
  · rfl
  · exact statistics_configured r r.enabled _ _

theorem statistics_setLevel (r : Registry) (name : String) (level : Level) :
    (r.setLevel name level).1.statistics = r.statistics := by
  simp only [setLevel]
  split
  · split
    · rfl
    · exact statistics_configured r r.enabled _ _
  · rfl

theorem sourced_record (h : r.statistics.Sourced) (now : Instant) (u : Update)
    (id : InstrumentId) : (r.record now u id).statistics.Sourced := by
  unfold record
  split
  · split
    · split
      · next s hStat =>
        exact h.of_eq (Statistics.sourceAt?_set hStat (s.source?_updated now u)) (Nat.le_refl _)
      · exact h
    · exact h
  · exact h

/-- An update does not change who is asked for what. -/
theorem sourced_update (h : r.statistics.Sourced) (now : Instant) (handle : Handle)
    (u : Update) : (r.update now handle u).statistics.Sourced := by
  rw [update_eq_foldl]
  induction handle.targets generalizing r with
  | nil => exact h
  | cons first rest ih => exact ih (sourced_record h now u first)

theorem sourced_reading (h : r.statistics.Sourced) (now : Instant) (handle : Handle) :
    (r.reading now handle).1.statistics.Sourced := by
  rw [reading]
  split
  · next id _ => exact h.read now id
  · exact h

end Registry

/-! ## Runs -/

namespace Usage

variable {u : Usage}

theorem sourced_perform (h : u.registry.statistics.Sourced) (now : Instant) (q : Request) :
    (u.perform now q).registry.statistics.Sourced := by
  cases q with
  | metric measure name level ancestors =>
    rw [perform, registry_got]
    exact Registry.sourced_metric h now measure name level ancestors
  | gauge name level timeout supplier =>
    cases timeout with
    | none =>
      rw [perform, registry_got, Registry.gauge, Registry.single_fst]
      exact Registry.sourced_single (s := .gauge supplier _) h rfl name level
    | some timeout =>
      rw [perform, registry_got, Registry.cachedGauge, Registry.single_fst]
      exact Registry.sourced_single (s := .cachedGauge (.new timeout) supplier _) h rfl name level
  | find kind name =>
    rw [perform, registry_got]
    exact h
  | remove name =>
    show (u.registry.remove name).1.statistics.Sourced
    rw [Registry.statistics_remove]
    exact h
  | setEnabled on =>
    show (u.registry.setEnabled on).1.statistics.Sourced
    rw [Registry.statistics_setEnabled]
    exact h
  | setRoot level =>
    show (u.registry.setRoot level).1.statistics.Sourced
    rw [Registry.statistics_setRoot]
    exact h
  | setLevel name level =>
    show (u.registry.setLevel name level).1.statistics.Sourced
    rw [Registry.statistics_setLevel]
    exact h
  | tell place up =>
    simp only [perform]
    split
    · next held _ => exact Registry.sourced_update h now held.handle up
    · exact h
  | read place =>
    simp only [perform]
    split
    · next held _ => exact Registry.sourced_reading h now held.handle
    · exact h
  | sample accepts => exact h.readAll _ now

/-- After every run no two statistics share a source. -/
theorem sourced_run (levels : LevelMap) (window : Window) (on : Bool)
    (steps : List (Instant × Request)) : (after levels window on steps).statistics.Sourced := by
  suffices hRun : ∀ u : Usage, u.registry.statistics.Sourced →
      (u.run steps).registry.statistics.Sourced from
    hRun _ Statistics.sourced_empty
  induction steps with
  | nil => exact fun u h => h
  | cons step rest ih => exact fun u h => ih _ (sourced_perform h step.1 step.2)

end Usage

end Metering
