import Metering.Proofs.Registry.Coherence
import Metering.Proofs.Registry.Sources
import Metering.Proofs.Registry.Stored
import Metering.Proofs.Report.Reporter

/-!
# Metering — what a reporter reports

A reporter that polls asks the store for the metrics that count and pass its filter, at a time when
much may have happened since it was built. What it hands to its sink is decided anew each time: by
the names that are registered, by the levels, and by the lists of its filter.

* `Kind.shown`, `Reading.count?` — the kind and the count that a sample shows;
* `Reading.integers`, `Reading.reals`, `Reading.IsLike` — all numbers of a reading, and readings of
  one kind;
* `Registry.samples_cases` — the samples are the readings of the registered instruments;
* `NameFilter.picks` — which names a filter without expressions lets through;
* `Reporter.report_of_samples`, `Reporter.report_of_none` — what becomes of the samples;
* `selection_reported_run` — what is handed to the sink after every run.
-/

namespace Metering

/-! ## Kinds and numbers -/

/-- The kind as it shows in a reading: that a gauge is cached does not. -/
def Kind.shown : Kind → Kind
  | cachedGauge => gauge
  | k => k

/-- The count that a reading shows; gauges show a value instead. -/
def Reading.count? : Reading → Option Int
  | counter count => some count.toInt
  | meter count _ | histogram count _ | timer count _ _ => some count.toNat
  | gauge _ => none

namespace Reading

/-- The whole numbers that a reading shows. -/
def integers : Reading → List Int
  | counter count => [count.toInt]
  | meter count _ => [count.toNat]
  | histogram count spread | timer count _ spread =>
    [(count.toNat : Int), spread.min.toInt, spread.max.toInt]
  | gauge _ => []

/-- The real numbers that a reading shows. -/
def reals : Reading → List Float
  | counter _ => []
  | meter _ rates => rates.figures
  | histogram _ spread => spread.figures
  | timer _ rates spread => rates.figures ++ spread.figures
  | gauge value => [value]

/-- Two readings of one kind. -/
inductive IsLike : Reading → Reading → Prop
  | counter {count other : Int64} : IsLike (counter count) (counter other)
  | meter {count other : UInt64} {rates otherRates : Rates} :
    IsLike (meter count rates) (meter other otherRates)
  | histogram {count other : UInt64} {spread otherSpread : Distribution} :
    IsLike (histogram count spread) (histogram other otherSpread)
  | timer {count other : UInt64} {rates otherRates : Rates} {spread otherSpread : Distribution} :
    IsLike (timer count rates spread) (timer other otherRates otherSpread)
  | gauge {value other : Float} : IsLike (gauge value) (gauge other)

/-- The label says of which kind a reading is. -/
theorem label_eq_iff {r q : Reading} : r.label = q.label ↔ r.IsLike q := by
  refine ⟨fun h => ?_, fun h => by cases h <;> rfl⟩
  cases r <;> cases q <;> first | constructor | simp [label] at h

end Reading

namespace Statistics

/-- A reading shows the kind of the statistic, and its count. -/
theorem read_shown {s : Statistics} {now : Instant} {id : StatId} {stat : Statistic}
    {reading : Reading} (hAt : s.get? id = some stat) (h : (s.read now id).2 = some reading) :
    reading.label = stat.kind.shown.label ∧ ∀ n, reading.count? = some n → stat.count = n := by
  cases stat with
  | counter count =>
    simp only [read, hAt] at h
    rw [← Option.some.inj h]
    exact ⟨rfl, fun n hn => Option.some.inj hn⟩
  | meter m =>
    simp only [read, hAt] at h
    rw [← Option.some.inj h]
    refine ⟨rfl, fun n hn => ?_⟩
    rw [← Option.some.inj hn]
    show (m.count.toNat : Int) = ((m.tick now).count.toNat : Int)
    rw [Meter.count_tick]
  | histogram hist =>
    simp only [read, hAt] at h
    rw [← Option.some.inj h]
    exact ⟨rfl, fun n hn => Option.some.inj hn⟩
  | timer t =>
    simp only [read, hAt] at h
    rw [← Option.some.inj h]
    exact ⟨rfl, fun n hn => Option.some.inj hn⟩
  | gauge supplier source =>
    simp only [read, hAt] at h
    obtain ⟨value, -, rfl⟩ := Option.map_eq_some_iff.mp h
    exact ⟨rfl, fun n hn => by cases hn⟩
  | cachedGauge g supplier source =>
    simp only [read, hAt] at h
    split at h
    · rw [← Option.some.inj h]
      exact ⟨rfl, fun n hn => by cases hn⟩
    · split at h
      · rw [← Option.some.inj h]
        exact ⟨rfl, fun n hn => by cases hn⟩
      · cases h

end Statistics

/-! ## The samples of a registry -/

namespace Registry

variable {r : Registry}

/-- The instrument that is registered under a name, read by a handle of its own, shows something or
nothing. -/
def Shows (r : Registry) (now : Instant) (name : String) (shown : Option Reading) : Prop :=
  ∃ id i, r.records.get? name = some id ∧ r.instrument? id = some i ∧
    (r.reading now ⟨i.kind, [id]⟩).2 = shown

theorem map_fst_placesOf {es : List (String × InstrumentId)}
    (h : ∀ e ∈ es, ∃ i, r.instrument? e.2 = some i) :
    (r.placesOf es).map Prod.fst = es.map Prod.fst := by
  induction es with
  | nil => rfl
  | cons e rest ih =>
    obtain ⟨i, hAt⟩ := h e List.mem_cons_self
    have hPlaces : r.placesOf (e :: rest) = (e.1, i.statistic) :: r.placesOf rest :=
      List.filterMap_cons_some (by rw [hAt]; rfl)
    rw [hPlaces, List.map_cons, List.map_cons, ih fun d hd => h d (List.mem_cons_of_mem _ hd)]

/-- The names of the metrics that pass a test, in their order. -/
theorem names_passing (hSound : Sound r) (accepts : String → Bool) :
    (r.placesOf (r.passing accepts)).map Prod.fst = r.records.names.filter accepts := by
  rw [map_fst_placesOf, passing, NameMap.names, List.filter_map]
  · rfl
  · intro e he
    have hRecord := NameMap.get?_eq_some_iff.mpr (List.mem_filter.mp he).1
    obtain ⟨i, hAt, -⟩ := hSound.recorded hRecord
    exact ⟨i, hAt⟩

theorem mem_placesOf_passing {accepts : String → Bool} {e : String × StatId}
    (h : e ∈ r.placesOf (r.passing accepts)) :
    ∃ id i, r.records.get? e.1 = some id ∧ r.instrument? id = some i ∧ i.statistic = e.2 := by
  obtain ⟨⟨name, id⟩, hMem, hPlace⟩ := List.mem_filterMap.mp h
  obtain ⟨place, hFound, rfl⟩ := Option.map_eq_some_iff.mp hPlace
  obtain ⟨i, hAt, rfl⟩ := Option.map_eq_some_iff.mp hFound
  exact ⟨id, i, NameMap.get?_eq_some_iff.mpr (List.mem_filter.mp hMem).1, hAt, rfl⟩

/-- No two metrics record in the same place. -/
theorem nodup_places (hSound : Sound r) (accepts : String → Bool) :
    ((r.placesOf (r.passing accepts)).map Prod.snd).Nodup := by
  have hNames : ((r.placesOf (r.passing accepts)).map Prod.fst).Pairwise (· < ·) := by
    rw [names_passing hSound]
    exact (NameMap.pairwise_names _).filter _
  rw [List.pairwise_map] at hNames
  rw [List.nodup_iff_pairwise_ne, List.pairwise_map]
  refine hNames.imp_of_mem fun {d e} hd he hlt hSame => ?_
  obtain ⟨id, i, hRecord, hAt, hPlace⟩ := mem_placesOf_passing hd
  obtain ⟨other, j, hOther, hj, hOtherPlace⟩ := mem_placesOf_passing he
  -- one place means one instrument, and one instrument means one name
  have hId : id = other := hSound.apart hAt hj (by rw [hPlace, hOtherPlace, hSame])
  rw [← hId] at hOther
  have hName : e.1 = d.1 := hSound.name_unique hRecord hOther
  rw [hName] at hlt
  exact String.lt_irrefl _ hlt

theorem map_name_eq {P : String × StatId → Sample → Prop} {es : List (String × StatId)}
    {samples : List Sample}
    (h : List.Forall₂ (fun e sample => sample.name = e.1 ∧ P e sample) es samples) :
    samples.map Sample.name = es.map Prod.fst := by
  induction h with
  | nil => rfl
  | cons hFirst _ ih => rw [List.map_cons, List.map_cons, hFirst.1, ih]

theorem shows_of_place {e : String × StatId} {id : InstrumentId} {i : Instrument}
    (hRecord : r.records.get? e.1 = some id) (hAt : r.instrument? id = some i)
    (hPlace : i.statistic = e.2) (now : Instant) :
    r.Shows now e.1 (r.statistics.read now e.2).2 := by
  refine ⟨id, i, hRecord, hAt, ?_⟩
  rw [reading_single hAt, hPlace]

/-- The samples are what the registered instruments show whose names pass, each read directly in the
state in which the samples are asked for. There are none if one of them shows nothing. -/
theorem samples_cases (hSound : Sound r) (hStored : Stored r) (hSourced : r.statistics.Sourced)
    (now : Instant) (accepts : String → Bool) :
    (∃ samples, (r.samples now accepts).2 = some samples ∧
      samples.map Sample.name = r.records.names.filter accepts ∧
      ∀ sample ∈ samples, r.Shows now sample.name (some sample.reading)) ∨
    ((r.samples now accepts).2 = none ∧
      ∃ name ∈ r.records.names.filter accepts, r.Shows now name none) := by
  have hSamples : (r.samples now accepts).2 =
      (r.statistics.readAll now (r.placesOf (r.passing accepts))).2 := by
    rw [← hStored.passing_eq]
    rfl
  have hNames := names_passing hSound accepts
  rw [hSamples]
  rcases hSourced.readAll_cases (nodup_places hSound accepts) now with
    ⟨samples, hAll, hReadings⟩ | ⟨hNone, e, he, hSilent⟩
  · refine .inl ⟨samples, hAll, ?_, ?_⟩
    · rw [← hNames]
      exact map_name_eq hReadings
    · intro sample hMem
      obtain ⟨n, hn, rfl⟩ := List.mem_iff_getElem.mp hMem
      have hPlace : n < (r.placesOf (r.passing accepts)).length := hReadings.length_eq ▸ hn
      obtain ⟨hName, hReading⟩ := hReadings.get hPlace hn
      rw [List.get_eq_getElem, List.get_eq_getElem] at hName hReading
      obtain ⟨id, i, hRecord, hAt, hStat⟩ := mem_placesOf_passing (List.getElem_mem hPlace)
      rw [hName, ← hReading]
      exact shows_of_place hRecord hAt hStat now
  · refine .inr ⟨hNone, e.1, ?_, ?_⟩
    · rw [← hNames]
      exact List.mem_map_of_mem he
    · obtain ⟨id, i, hRecord, hAt, hStat⟩ := mem_placesOf_passing he
      rw [← hSilent]
      exact shows_of_place hRecord hAt hStat now

/-- What an instrument shows has its kind, and the count that it has recorded. -/
theorem Shows.recorded {now : Instant} {name : String} {reading : Reading} (hSound : Sound r)
    (h : r.Shows now name (some reading)) :
    ∃ i s, r.record? name = some i ∧ r.statistics.get? i.statistic = some s ∧
      reading.label = i.kind.shown.label ∧ ∀ n, reading.count? = some n → s.count = n := by
  obtain ⟨id, i, hRecord, hAt, hReading⟩ := h
  obtain ⟨n, hTally⟩ := hSound.measured hAt
  obtain ⟨s, hStat, hIs⟩ := Option.map_eq_some_iff.mp hTally
  have hKind : s.kind = i.kind := (Prod.mk.inj hIs).1
  rw [reading_single hAt] at hReading
  obtain ⟨hLabel, hCount⟩ := Statistics.read_shown hStat hReading
  refine ⟨i, s, ?_, hStat, ?_, hCount⟩
  · rw [record?, hRecord]
    exact hAt
  · rw [hLabel, hKind]

end Registry

namespace Report

/-! ## Filters without expressions -/

/-- Whether a filter without expressions lets a name through. -/
def NameFilter.picks (filter : NameFilter) (name : String) : Bool :=
  !filter.excludes.contains name &&
    (filter.includes.size == 0 || filter.includes.contains name)

/-- A filter without expressions can always be read, and lets through the names that count and that
it picks. -/
theorem NameFilter.accepts_of_read {filter : NameFilter} {selection : Selection}
    {reporter : String} (hPlain : filter.useExpressions = false)
    (hRead : filter.read reporter = .ok selection) (enabled : String → Bool) (name : String) :
    selection.accepts enabled name = (enabled name && filter.picks name) := by
  have hBoth : filter.read reporter = .ok ⟨.exact filter.includes, .exact filter.excludes⟩ := by
    simp only [read, Matcher.ofSet, hPlain, Bool.false_eq_true, if_false]
    rfl
  rw [hBoth] at hRead
  cases hRead
  rw [NameFilter.picks, ← Bool.and_assoc]
  rfl

/-! ## Reports -/

namespace Reporter

/-- The samples are handed to the sink of the reporter, whose outcome is that of the report. -/
theorem report_of_samples {p : Polled} {site : Site} {samples : List Sample}
    (h : (site.registry.samples site.now (p.selection.accepts site.registry.counts)).2 =
      some samples) :
    let written := p.sink.write (p.writing site.host samples.length) p.name samples
    ((polled p).report site).1.host = written.1 ∧
      ((polled p).report site).2.1 = polled { p with sink := written.2.1 } ∧
      ((polled p).report site).2.2 = match written.2.2 with
        | .ok () => .done
        | .error fault => .failed fault := by
  intro written
  cases hAll : site.registry.samples site.now (p.selection.accepts site.registry.counts) with
  | mk registry found =>
    rw [hAll] at h
    have hFound : found = some samples := h
    simp only [report, hAll, hFound, p.report_eq]
    split
    · next hWell => exact ⟨rfl, rfl, by rw [hWell]⟩
    · next fault hFailed => exact ⟨rfl, rfl, by rw [hFailed]⟩

/-- Without samples the report breaks off, and nothing is written. -/
theorem report_of_none {p : Polled} {site : Site}
    (h : (site.registry.samples site.now (p.selection.accepts site.registry.counts)).2 = none) :
    ((polled p).report site).1.host = site.host ∧
      ((polled p).report site).2 = (polled p, .brokenOff) := by
  cases hAll : site.registry.samples site.now (p.selection.accepts site.registry.counts) with
  | mk registry found =>
    rw [hAll] at h
    have hFound : found = none := h
    rw [report, hAll, hFound]
    exact ⟨rfl, rfl⟩

/-- After every run, whatever was created, removed and configured since a reporter was built with a
filter without expressions: a report chooses the names that are registered, that count by the switch
and the levels as they are now, and that the filter picks. It hands its sink one sample for each of
them, in ascending order, and nothing else. Each is what the instrument registered under the name
shows when it is read directly at that instant, with its kind and count. If the supplier of one of
these gauges breaks off, so does the report, and nothing is written. -/
theorem selection_reported_run (levels : LevelMap) (window : Window) (on : Bool)
    (steps : List (Instant × Request)) :
    let r := Usage.after levels window on steps
    ∀ (filter : NameFilter) (p : Polled) (site : Site), filter.useExpressions = false →
      filter.read p.name = .ok p.selection →
      site.registry = { r with trail := site.registry.trail } →
        let chosen := r.records.names.filter fun name =>
          decide (r.resolved? name = some true) && filter.picks name
        let report := (polled p).report site
        chosen.Pairwise (· < ·) ∧
        ((∃ samples, samples.map Sample.name = chosen ∧
            (∀ sample ∈ samples, r.Shows site.now sample.name (some sample.reading) ∧
              ∃ i s, r.record? sample.name = some i ∧ r.statistics.get? i.statistic = some s ∧
                sample.reading.label = i.kind.shown.label ∧
                ∀ n, sample.reading.count? = some n → s.count = n) ∧
            let written := p.sink.write (p.writing site.host samples.length) p.name samples
            report.1.host = written.1 ∧ report.2.1 = polled { p with sink := written.2.1 } ∧
              report.2.2 = match written.2.2 with
                | .ok () => .done
                | .error fault => .failed fault) ∨
          ((∃ name ∈ chosen, r.Shows site.now name none) ∧
            report.1.host = site.host ∧ report.2 = (polled p, .brokenOff))) := by
  intro r filter p site hPlain hRead hSite chosen report
  have hSound : Registry.Sound r := (Usage.valid_run levels window on steps).sound
  have hStored : Registry.Stored r := Registry.stored_after levels window on steps
  have hSourced : r.statistics.Sourced := Usage.sourced_run levels window on steps
  have hCoherent : Registry.Coherent r := Registry.coherent_after levels window on steps
  -- what the reporter accepts is what is chosen
  have hCounts : site.registry.counts = r.counts := by rw [hSite]; rfl
  have hChosen : r.records.names.filter (p.selection.accepts site.registry.counts) = chosen := by
    refine List.filter_congr fun name _ => ?_
    rw [NameFilter.accepts_of_read hPlain hRead, hCounts, Registry.counts_eq_getD,
      hCoherent.enabled_eq_resolved?]
    cases r.resolved? name with
    | none => rfl
    | some counting => cases counting <;> rfl
  have hSamples : (site.registry.samples site.now (p.selection.accepts site.registry.counts)).2 =
      (r.samples site.now (p.selection.accepts site.registry.counts)).2 := by
    rw [hSite]
    rfl
  refine ⟨(NameMap.pairwise_names _).filter _, ?_⟩
  rcases Registry.samples_cases hSound hStored hSourced site.now
      (p.selection.accepts site.registry.counts) with
    ⟨samples, hAll, hNames, hShown⟩ | ⟨hNone, name, hMem, hSilent⟩
  · refine .inl ⟨samples, hNames.trans hChosen, fun sample hSample => ?_, ?_⟩
    · have hShows := hShown sample hSample
      exact ⟨hShows, hShows.recorded hSound⟩
    · exact report_of_samples (hSamples.trans hAll)
  · refine .inr ⟨⟨name, ?_, hSilent⟩, report_of_none (hSamples.trans hNone)⟩
    rw [← hChosen]
    exact hMem

/-- Of four counters one does not count by the levels, one is excluded and one is not asked for. The
page that is printed shows the fourth. -/
theorem selection_reported_of_counters :
    let r := Usage.after default (.values 8) true
      [(0, .metric .counter "b" .info []), (0, .metric .counter "a" .info []),
       (0, .metric .counter "c" .debug []), (0, .metric .counter "d" .info []),
       (1, .tell 0 (.add 5))]
    let filter : NameFilter := ⟨false, .ofList ["a", "b", "c"], .ofList ["a"]⟩
    let p : Polled := ⟨"r", 1, ⟨.exact filter.includes, .exact filter.excludes⟩, .console, false⟩
    let site : Site := ⟨⟨0, ⟨.empty⟩, "", []⟩, 2, r, []⟩
    let report := (polled p).report site
    report.2.2 = .done ∧ report.1.host.output = page 0 [⟨"b", .counter 5⟩] := by
  intro r filter p site report
  obtain ⟨-, hReport⟩ := selection_reported_run default (.values 8) true
    [(0, .metric .counter "b" .info []), (0, .metric .counter "a" .info []),
     (0, .metric .counter "c" .debug []), (0, .metric .counter "d" .info []),
     (1, .tell 0 (.add 5))] filter p site rfl rfl rfl
  have hChosen : (r.records.names.filter fun name =>
      decide (r.resolved? name = some true) && filter.picks name) = ["b"] := by decide
  have hRecorded : r.record? "b" = some ⟨"b", .counter, .info, true, 0⟩ := rfl
  have hCounted : r.statistics.get? 0 = some (.counter 5) := rfl
  rcases hReport with ⟨samples, hNames, hAll, hHost, -, hDone⟩ | ⟨⟨name, hMem, hSilent⟩, -⟩
  · obtain ⟨⟨name, reading⟩, rfl, hName⟩ := List.map_eq_singleton_iff.mp (hNames.trans hChosen)
    obtain ⟨-, i, s, hRecord, hStat, hLabel, hCount⟩ := hAll _ List.mem_cons_self
    obtain rfl : name = "b" := hName
    cases hRecorded.symm.trans hRecord
    cases hCounted.symm.trans hStat
    -- only the reading of a counter is labelled as one
    have hReading : reading = .counter 5 := by
      have hLabel : reading.label = "counter" := hLabel
      cases reading with
      | counter n => rw [Int64.toInt_inj.mp (hCount n.toInt rfl)]
      | meter | histogram | timer | gauge => simp [Reading.label] at hLabel
    refine ⟨hDone, ?_⟩
    rw [hHost, hReading]
    exact String.empty_append
  · -- a counter always shows something
    rw [hChosen] at hMem
    obtain ⟨id, i, hRecord, hAt, hNothing⟩ := hSilent
    rw [List.mem_singleton.mp hMem] at hRecord
    have hFirst : r.records.get? "b" = some 0 := rfl
    rw [hFirst] at hRecord
    cases hRecord
    cases hNothing

end Reporter

end Report

end Metering
