import Metering.Proofs.Registry.Usage

/-!
# Metering — what counts is what is configured

Whether a metric counts is kept with it, so that telling it something costs no look-up of levels.
What is kept could be out of date in many ways: a level that is set for one name applies to all
names below, it stays when its metric is removed, and requests that change nothing return early.
It is never out of date.

* `Coherent` — what is kept with every registered metric is what is configured;
* `Coherent.move` — no elementary change breaks this;
* `resolved?` — whether a metric should count, worked out anew from the levels;
* `enablement_coherent_run` — after every run, all that one may ask about what counts agrees with
  what is worked out anew.
-/

namespace Metering.Registry

variable {r r' : Registry}

/-! ## The invariant -/

/-- Every registered metric counts if it should by what is configured, and only then. -/
def Coherent (r : Registry) : Prop :=
  ∀ ⦃name id i⦄, r.records.get? name = some id → r.instrument? id = some i →
    i.enabled = r.admits name i.level

theorem coherent_new (levels : LevelMap) (window : Window) (on : Bool) :
    Coherent (new levels window on) := by
  intro name id i hRecord
  cases hRecord

/-- A new metric gets its flag from the same levels as all others had theirs. -/
theorem Coherent.make (h : Coherent r) (hSound : Sound r) (name : String) (level : Level)
    (initial : Statistic) : Coherent (r.make name level initial).1 := by
  intro other id i hRecord hAt
  show i.enabled = r.admits other i.level
  rw [records_make, NameMap.get?_insert] at hRecord
  split at hRecord
  · next hSame =>
    rw [← Option.some.inj hRecord, instrument?_make_self] at hAt
    rw [← Option.some.inj hAt, hSame]
    rfl
  · obtain ⟨j, hj, -⟩ := hSound.recorded hRecord
    rw [instrument?_make_of_some hj] at hAt
    rw [← Option.some.inj hAt]
    exact h hRecord hj

/-- After a refresh it does not matter what was kept before. -/
theorem coherent_refreshed (hSound : Sound r) : Coherent r.refreshed := by
  intro name id i hRecord hAt
  rw [refreshed_eq] at hRecord
  obtain ⟨j, hj, -⟩ := hSound.recorded hRecord
  -- no second name could have set the flag by other levels afterwards
  have hOnly : ∀ other, r.records.get? other = some id → other = name :=
    fun _ hOther => hSound.name_unique hRecord hOther
  rw [instrument?_refreshed_of_record hOnly hRecord hj] at hAt
  rw [← Option.some.inj hAt, refreshed_eq]
  rfl

theorem Coherent.without (h : Coherent r) (name : String) : Coherent (r.without name) := by
  intro other id i hRecord hAt
  have hErased : (r.records.erase name).get? other = some id := hRecord
  rw [NameMap.get?_erase] at hErased
  split at hErased
  · cases hErased
  · exact h hErased hAt

theorem Coherent.move (hMove : Move r r') (hSound : Sound r) (h : Coherent r) : Coherent r' := by
  cases hMove with
  | made name level initial _ _ _ => exact h.make hSound name level initial
  | removed name => exact h.without name
  | configured on levels trail =>
    -- whatever was kept is replaced, so coherence before the change is not needed
    exact coherent_refreshed (hSound.configured on levels trail)
  | told | grouped | ungrouped | read => exact fun _ _ _ hRecord hAt => h hRecord hAt

theorem coherent_after (levels : LevelMap) (window : Window) (on : Bool)
    (steps : List (Instant × Request)) : Coherent (Usage.after levels window on steps) :=
  Usage.after_keeps levels window on Coherent.move
    (fun _ h _ _ _ hRecord hAt => h hRecord hAt) (coherent_new levels window on) steps

/-! ## Worked out anew -/

/-- Whether the metric of a plain name should count by the switch and the levels as they are now;
none if no metric is registered under this name. -/
def resolved? (r : Registry) (name : String) : Option Bool :=
  (r.record? name).map fun i => r.enabled && (r.levels.effective name).admits i.level

theorem Coherent.enabled_eq_resolved? (h : Coherent r) (name : String) :
    (r.record? name).map Instrument.enabled = r.resolved? name := by
  rw [resolved?]
  cases hRecord : r.record? name with
  | none => rfl
  | some i =>
    obtain ⟨id, hId, hAt⟩ := Option.bind_eq_some_iff.mp hRecord
    rw [Option.map_some, Option.map_some, h hId hAt]
    rfl

theorem counts_eq_getD (r : Registry) (name : String) :
    r.counts name = ((r.record? name).map Instrument.enabled).getD false := by
  rw [counts]
  cases r.record? name <;> rfl

theorem counts?_eq_elim (r : Registry) (name : String) :
    r.counts? name =
      ((r.record? name).map Instrument.enabled).elim (.error (.notFound name)) .ok := by
  rw [counts?]
  cases r.record? name <;> rfl

/-- After every run, whatever was created, removed, switched and configured in it and whether it
was refused or not: the flag of every registered metric, the status that is shown for a name, the
filter of the names that count and the number of metrics that count all agree with what the
switch and the levels say now. -/
theorem enablement_coherent_run (levels : LevelMap) (window : Window) (on : Bool)
    (steps : List (Instant × Request)) :
    let r := Usage.after levels window on steps
    -- the flags of the registered metrics
    (∀ name, (r.record? name).map Instrument.enabled = r.resolved? name) ∧
    -- the status of a name, and the filter
    (∀ name, r.counts? name = (r.resolved? name).elim (.error (.notFound name)) .ok) ∧
    (∀ name, r.counts name = (r.resolved? name).getD false) ∧
    -- the number of metrics that count
    r.countingSize = r.records.names.countP fun name => r.resolved? name = some true := by
  intro r
  have hFlag : ∀ name, (r.record? name).map Instrument.enabled = r.resolved? name :=
    (coherent_after levels window on steps).enabled_eq_resolved?
  have hFilter : ∀ name, r.counts name = (r.resolved? name).getD false := by
    intro name
    rw [counts_eq_getD, hFlag]
  refine ⟨hFlag, ?_, hFilter, ?_⟩
  · intro name
    rw [counts?_eq_elim, hFlag]
  · refine List.countP_congr fun name _ => ?_
    rw [hFilter]
    cases r.resolved? name with
    | none => simp
    | some counting => simp

end Metering.Registry
