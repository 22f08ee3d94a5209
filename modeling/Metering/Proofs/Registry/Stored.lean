import Metering.Proofs.Registry.Usage

/-!
# Metering — the store agrees with the registry

What reporters read is kept apart from what is registered, and the two are changed in different
places: when a metric is made, and when one is removed. Still they never differ.

* `Stored` — under each name the store has the statistic of the registered instrument;
* `Stored.move` — no elementary change breaks this;
* `Whole`, `Whole.moves` — all that holds of the tables of a registry after every run;
* `readings` — what the registered instruments show when they are read one by one;
* `samples_eq_readings` — reporters read just that;
* `store_agrees_run` — after every run the store has the names, kinds and statistics of the
  registered metrics, as many as there are.
-/

namespace Metering.Registry

variable {r r' : Registry}

/-! ## The invariant -/

/-- Under each name the store has the statistic in which the instrument registered there records,
and nothing under all other names. -/
def Stored (r : Registry) : Prop :=
  ∀ name, r.store.get? name = (r.record? name).map Instrument.statistic

theorem stored_new (levels : LevelMap) (window : Window) (on : Bool) :
    Stored (new levels window on) := fun _ => rfl

theorem Stored.make (h : Stored r) (hSound : Sound r) (name : String) (level : Level)
    (initial : Statistic) : Stored (r.make name level initial).1 := by
  intro other
  rw [store_make, NameMap.get?_insert, record?, records_make, NameMap.get?_insert]
  split
  · rw [Option.bind_some, instrument?_make_self]
    rfl
  · rw [h other, record?]
    cases hRecord : r.records.get? other with
    | none => rfl
    | some id =>
      obtain ⟨i, hAt, -⟩ := hSound.recorded hRecord
      rw [Option.bind_some, Option.bind_some, instrument?_make_of_some hAt, hAt]

theorem Stored.without (h : Stored r) (name : String) : Stored (r.without name) := by
  intro other
  show (r.store.erase name).get? other =
    (((r.records.erase name).get? other).bind r.instrument?).map Instrument.statistic
  rw [NameMap.get?_erase, NameMap.get?_erase]
  split
  · rfl
  · exact h other

/-- A refresh changes flags only, none of which is stored. -/
theorem Stored.refreshed (h : Stored r) : Stored r.refreshed := by
  intro name
  have hStore : r.refreshed.store = r.store := by rw [refreshed_eq]
  have hRecords : r.refreshed.records = r.records := by rw [refreshed_eq]
  rw [hStore, h name, record?, record?, hRecords]
  cases r.records.get? name with
  | none => rfl
  | some id =>
    obtain ⟨on, hOn⟩ := instrument?_refreshed r id
    rw [Option.bind_some, Option.bind_some, hOn, Option.map_map]
    rfl

theorem Stored.move (hMove : Move r r') (hSound : Sound r) (h : Stored r) : Stored r' := by
  cases hMove with
  | made name level initial _ _ _ => exact h.make hSound name level initial
  | removed name => exact h.without name
  | configured on levels trail =>
    have hConfigured : Stored { r with enabled := on, levels := levels, trail := trail } := h
    exact hConfigured.refreshed
  | told | grouped | ungrouped | read => exact h

theorem stored_after (levels : LevelMap) (window : Window) (on : Bool)
    (steps : List (Instant × Request)) : Stored (Usage.after levels window on steps) :=
  Usage.after_keeps levels window on Stored.move (fun _ h => h)
    (stored_new levels window on) steps

/-- A registry as it is after every run: sound, with its groups intact and its store complete. -/
structure Whole (r : Registry) : Prop where
  sound : Sound r
  grouped : Grouped r
  stored : Stored r

theorem whole_after (levels : LevelMap) (window : Window) (on : Bool)
    (steps : List (Instant × Request)) : Whole (Usage.after levels window on steps) := by
  have hValid := Usage.valid_run levels window on steps
  exact ⟨hValid.sound, hValid.grouped, stored_after levels window on steps⟩

/-- What is done by elementary changes leaves a registry whole. -/
theorem Whole.moves (hMoves : Moves r r') (h : Whole r) : Whole r' :=
  hMoves.keep (P := Whole)
    (fun hMove h => ⟨h.sound.move hMove, h.grouped.move hMove, h.stored.move hMove h.sound⟩) h

/-! ## Names and kinds -/

theorem Stored.contains_eq (h : Stored r) (hSound : Sound r) (name : String) :
    r.store.contains name = r.records.contains name := by
  rw [NameMap.contains, NameMap.contains, h name, record?]
  cases hRecord : r.records.get? name with
  | none => rfl
  | some id =>
    obtain ⟨i, hAt, -⟩ := hSound.recorded hRecord
    rw [Option.bind_some, hAt]
    rfl

theorem Stored.names_eq (h : Stored r) (hSound : Sound r) : r.store.names = r.records.names :=
  NameMap.names_eq_of_contains_eq (h.contains_eq hSound)

theorem Stored.size_eq (h : Stored r) (hSound : Sound r) : r.store.size = r.size := by
  rw [← NameMap.length_names, h.names_eq hSound, NameMap.length_names, size]

/-- The stored statistic of a metric is of the kind of its instrument. -/
theorem Stored.kind?_eq (h : Stored r) (hSound : Sound r) (name : String) :
    Store.kind? r.store r.statistics name = (r.record? name).map Instrument.kind := by
  rw [Store.kind?, h name]
  cases hRecord : r.record? name with
  | none => rfl
  | some i =>
    obtain ⟨id, -, hAt⟩ := Option.bind_eq_some_iff.mp hRecord
    obtain ⟨n, hTally⟩ := hSound.measured hAt
    obtain ⟨s, hStat, hEq⟩ := Option.map_eq_some_iff.mp hTally
    rw [Option.map_some, Option.bind_some, hStat, Option.map_some, Option.map_some]
    exact congrArg some (Prod.mk.inj hEq).1

/-! ## Readings -/

/-- A handle to each of some named instruments. -/
def handlesOf (r : Registry) (es : List (String × InstrumentId)) : List (String × Handle) :=
  es.filterMap fun e => (r.instrument? e.2).map fun i => (e.1, ⟨i.kind, [e.2]⟩)

/-- Where each of some named instruments records. -/
def placesOf (r : Registry) (es : List (String × InstrumentId)) : List (String × StatId) :=
  es.filterMap fun e => ((r.instrument? e.2).map Instrument.statistic).map fun place => (e.1, place)

/-- The registered metrics whose names pass a test, in the order of the names. -/
def passing (r : Registry) (accepts : String → Bool) : List (String × InstrumentId) :=
  r.records.toList.filter fun e => accepts e.1

/-- What named handles show that are read one after the other. As always, there is nothing to be
had if a supplier breaks off. -/
def readings (r : Registry) (now : Instant) :
    List (String × Handle) → Registry × Option (List Sample)
  | [] => (r, some [])
  | (name, handle) :: rest =>
    match r.reading now handle with
    | (r, none) => (r, none)
    | (r, some reading) =>
      let (r, samples) := r.readings now rest
      (r, samples.map (⟨name, reading⟩ :: ·))

/-- The handle of a single instrument shows what the statistic of this instrument shows. -/
theorem reading_single {id : InstrumentId} {i : Instrument} (hAt : r.instrument? id = some i)
    (now : Instant) (kind : Kind) :
    r.reading now ⟨kind, [id]⟩ =
      ({ r with statistics := (r.statistics.read now i.statistic).1 },
        (r.statistics.read now i.statistic).2) := by
  have hPlace : r.statId? ⟨kind, [id]⟩ = some i.statistic := by
    rw [statId?, List.head?_cons, Option.bind_some, hAt, Option.map_some]
  rw [reading, hPlace]

/-- To read instruments one by one is to read the statistics in which they record. -/
theorem readings_handlesOf (now : Instant) (es : List (String × InstrumentId)) (r : Registry) :
    r.readings now (r.handlesOf es) =
      ({ r with statistics := (r.statistics.readAll now (r.placesOf es)).1 },
        (r.statistics.readAll now (r.placesOf es)).2) := by
  -- by induction on the names; whoever has no instrument is left out on both sides
  induction es generalizing r with
  | nil => rfl
  | cons e rest ih =>
    obtain ⟨name, id⟩ := e
    cases hAt : r.instrument? id with
    | none =>
      have hHandles : r.handlesOf ((name, id) :: rest) = r.handlesOf rest :=
        List.filterMap_cons_none (by rw [hAt]; rfl)
      have hPlaces : r.placesOf ((name, id) :: rest) = r.placesOf rest :=
        List.filterMap_cons_none (by rw [hAt]; rfl)
      rw [hHandles, hPlaces]
      exact ih r
    | some i =>
      have hHandles : r.handlesOf ((name, id) :: rest) =
          (name, ⟨i.kind, [id]⟩) :: r.handlesOf rest :=
        List.filterMap_cons_some (by rw [hAt]; rfl)
      have hPlaces : r.placesOf ((name, id) :: rest) = (name, i.statistic) :: r.placesOf rest :=
        List.filterMap_cons_some (by rw [hAt]; rfl)
      rw [hHandles, hPlaces, readings, Statistics.readAll, reading_single hAt]
      cases hRead : r.statistics.read now i.statistic with
      | mk statistics shown =>
        cases shown with
        | none => rfl
        | some reading =>
          -- reading leaves the instruments as they are, so the rest is read as if it came first
          have hRest := ih { r with statistics := statistics }
          exact congrArg (fun out : Registry × Option (List Sample) =>
            (out.1, out.2.map (⟨name, reading⟩ :: ·))) hRest

/-- The stored statistics that pass a test are those of the registered metrics that pass it. -/
theorem Stored.passing_eq (h : Stored r) (accepts : String → Bool) :
    Store.passing r.store accepts = r.placesOf (r.passing accepts) := by
  have hAll : r.store.toList = r.placesOf r.records.toList := by
    refine NameMap.toList_eq_filterMap
      (f := fun id => (r.instrument? id).map Instrument.statistic) fun name => ?_
    rw [h name, record?]
    cases r.records.get? name <;> rfl
  rw [Store.passing, hAll, placesOf, placesOf, passing, List.filter_filterMap,
    List.filterMap_filter]
  refine List.filterMap_congr fun e _ => ?_
  cases r.instrument? e.2 with
  | none => simp
  | some i => simp [Option.filter]

/-- Reporters read what the registered instruments show when they are read one by one. -/
theorem Stored.samples_eq_readings (h : Stored r) (now : Instant) (accepts : String → Bool) :
    r.samples now accepts = r.readings now (r.handlesOf (r.passing accepts)) := by
  rw [readings_handlesOf, ← h.passing_eq]
  rfl

/-- After every run the store and the registry agree: they have the same names and as many, under
each name the statistic in which the registered instrument records, which is of the kind of this
instrument. So whatever reporters read is what the registered instruments themselves show. -/
theorem store_agrees_run (levels : LevelMap) (window : Window) (on : Bool)
    (steps : List (Instant × Request)) :
    let r := Usage.after levels window on steps
    r.store.names = r.records.names ∧
    r.store.size = r.size ∧
    (∀ name, Store.kind? r.store r.statistics name = (r.record? name).map Instrument.kind) ∧
    (∀ name, r.store.get? name = (r.record? name).map Instrument.statistic) ∧
    ∀ now accepts,
      r.samples now accepts = r.readings now (r.handlesOf (r.passing accepts)) := by
  intro r
  have hSound : Sound r := (Usage.valid_run levels window on steps).sound
  have hStored : Stored r := stored_after levels window on steps
  exact ⟨hStored.names_eq hSound, hStored.size_eq hSound, hStored.kind?_eq hSound, hStored,
    hStored.samples_eq_readings⟩

end Metering.Registry
