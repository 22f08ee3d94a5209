import Metering.Proofs.Statistic.Tally
import Metering.Proofs.Supervisor

/-!
# Metering — rounds of reports

When all reporters are to report and all of them poll, each writes once, in the order of their
names, what the metrics show at its turn. What a sink cannot take is put into the log, and the next
reporter has its turn. Only a supplier of a gauge that breaks off keeps others from reporting.

* `Round` — the sites before and after reporters had their turns;
* `Registry.Answering` — no supplier of a stored gauge ever breaks off;
* `round_inTurn`, `round_reportAll` — where gauges answer, to let all report comes to its end and is
  a round of all.
-/

namespace Metering

open Report

/-! ## Gauges that answer -/

/-- The supplier of a gauge. -/
def Statistic.supplier? : Statistic → Option Supplier
  | gauge supplier _ | cachedGauge _ supplier _ => some supplier
  | _ => none

namespace Statistics

variable {s : Statistics} {id other : StatId} {now : Instant}

/-- There is a statistic at a place, and if it is a gauge, its supplier never breaks off. -/
def Answers (s : Statistics) (id : StatId) : Prop :=
  ∃ stat, s.get? id = some stat ∧
    ∀ supplier, stat.supplier? = some supplier → ∀ k, (supplier.answer k).isSome = true

theorem Answers.set {new old : Statistic} (h : s.Answers other) (hOld : s.get? id = some old)
    (hSupplier : new.supplier? = old.supplier?) : (s.set id new).Answers other := by
  obtain ⟨stat, hAt, hAnswers⟩ := h
  by_cases hSame : other = id
  · subst hSame
    rw [hOld] at hAt
    cases hAt
    exact ⟨new, by rw [get?_set, if_pos rfl, hOld]; rfl, hSupplier ▸ hAnswers⟩
  · exact ⟨stat, by rw [get?_set, if_neg hSame, hAt], hAnswers⟩

/-- What answers shows something, and a reading leaves all places answering. -/
theorem Answers.read (h : s.Answers id) (now : Instant) :
    (∃ reading, (s.read now id).2 = some reading) ∧
      ∀ other, s.Answers other → (s.read now id).1.Answers other := by
  obtain ⟨stat, hAt, hAnswers⟩ := h
  cases stat with
  | counter count =>
    rw [Statistics.read, hAt]
    exact ⟨⟨_, rfl⟩, fun _ hOther => hOther⟩
  | meter m =>
    rw [Statistics.read, hAt]
    exact ⟨⟨_, rfl⟩, fun _ hOther => hOther.set hAt rfl⟩
  | histogram hist =>
    rw [Statistics.read, hAt]
    exact ⟨⟨_, rfl⟩, fun _ hOther => hOther⟩
  | timer t =>
    rw [Statistics.read, hAt]
    exact ⟨⟨_, rfl⟩, fun _ hOther => hOther.set hAt rfl⟩
  | gauge supplier source =>
    obtain ⟨value, hValue⟩ :=
      Option.isSome_iff_exists.mp (hAnswers supplier rfl (s.timesAsked source))
    rw [Statistics.read, hAt]
    exact ⟨⟨.gauge value, by show Option.map _ (supplier.answer _) = _; rw [hValue]; rfl⟩,
      fun _ hOther => hOther⟩
  | cachedGauge g supplier source =>
    obtain ⟨value, hValue⟩ :=
      Option.isSome_iff_exists.mp (hAnswers supplier rfl (s.timesAsked source))
    have hAsk : (s.ask supplier source).2 = some value := hValue
    rw [Statistics.read, hAt]
    dsimp only
    -- the value that is kept is still good, or the supplier is asked again
    split
    · exact ⟨⟨_, rfl⟩, fun _ hOther => hOther⟩
    · rw [hAsk]
      exact ⟨⟨_, rfl⟩, fun _ hOther => Answers.set (s := (s.ask supplier source).1) hOther hAt rfl⟩

theorem readAll_of_answers {entries : List (String × StatId)} (h : ∀ e ∈ entries, s.Answers e.2)
    (now : Instant) :
    (∃ samples, (s.readAll now entries).2 = some samples) ∧
      ∀ other, s.Answers other → (s.readAll now entries).1.Answers other := by
  -- by induction on the entries; a reading leaves the gauges after it answering
  induction entries generalizing s with
  | nil => exact ⟨⟨_, rfl⟩, fun _ hOther => hOther⟩
  | cons e rest ih =>
    obtain ⟨name, id⟩ := e
    obtain ⟨hFirst, hRest⟩ := List.forall_mem_cons.mp h
    obtain ⟨⟨reading, hReading⟩, hKept⟩ := hFirst.read now
    obtain ⟨⟨samples, hSamples⟩, hStill⟩ := ih fun e hMem => hKept _ (hRest e hMem)
    have hRead : s.read now id = ((s.read now id).1, some reading) := Prod.ext rfl hReading
    rw [readAll, hRead]
    dsimp only
    rw [hSamples]
    exact ⟨⟨_, rfl⟩, fun other hOther => hStill other (hKept other hOther)⟩

end Statistics

/-- The statistics in the store are there, and no supplier of a gauge among them ever breaks off. -/
def Registry.Answering (r : Registry) : Prop :=
  ∀ name id, r.store.get? name = some id → r.statistics.Answers id

/-- Where no gauge is stored, no supplier can break off. -/
theorem Registry.answering_of_no_gauge {r : Registry}
    (h : ∀ e ∈ r.store.entries,
      (r.statistics.get? e.2).any (fun stat => stat.supplier?.isNone) = true) : r.Answering := by
  intro name id hStored
  have hStat := h _ (NameMap.get?_eq_some_iff.mp hStored)
  obtain ⟨stat, hAt, hNone⟩ := (Option.any_eq_true _ _).mp hStat
  refine ⟨stat, hAt, fun supplier hSome => ?_⟩
  rw [hSome] at hNone
  cases hNone

theorem Registry.Answering.samples {r : Registry} (h : r.Answering) (now : Instant)
    (accepts : String → Bool) :
    (∃ samples, (r.samples now accepts).2 = some samples) ∧
      (r.samples now accepts).1.Answering := by
  have hAll : ∀ e ∈ Store.passing r.store accepts, r.statistics.Answers e.2 := fun e hMem =>
    h e.1 e.2 (NameMap.get?_eq_some_iff.mpr (List.mem_filter.mp hMem).1)
  obtain ⟨hSome, hKept⟩ := Statistics.readAll_of_answers hAll now
  exact ⟨hSome, fun name id hStored => hKept id (h name id hStored)⟩

/-! ## Rounds -/

/-- The words for a report that failed. -/
def Reporters.reportFailed (name : String) (fault : ReportFault) : String :=
  s!"Reporter '{name}' failed to report: {fault.message}"

/-- The site after a report, which goes into the log if it failed. -/
def Site.reported (site : Site) (name : String) : Except ReportFault Unit → Site
  | .ok () => site
  | .error fault => site.say .error (Reporters.reportFailed name fault)

theorem Site.registry_reported (site : Site) (name : String) (outcome : Except ReportFault Unit) :
    (site.reported name outcome).registry = site.registry := by
  cases outcome <;> rfl

/-- Reporters have had their turns one after another: each took the samples of the metrics that
count and pass its filter, and its sink has written them. -/
inductive Round : List Polled → Site → Site → Prop
  | none (site : Site) : Round [] site site
  | next {p : Polled} {rest : List Polled} {site after : Site} {registry : Registry}
      {samples : List Sample} {host : Host} {sink : Sink} {outcome : Except ReportFault Unit}
      (hSamples : site.registry.samples site.now (p.selection.accepts site.registry.counts) =
        (registry, some samples))
      (hWritten : p.sink.write (p.writing site.host samples.length) p.name samples =
        (host, sink, outcome))
      (hRest : Round rest (Site.reported { site with registry := registry, host := host } p.name
        outcome) after) :
      Round (p :: rest) site after

namespace Reporters

variable {rs : Reporters} {p : Polled} {ps : List Polled}

/-- The turn of a reporter that polls, if no supplier breaks off. -/
theorem attend_report (hAt : rs.byName.get? p.name = some (.polled p)) {registry : Registry}
    {samples : List Sample}
    (hSamples : rs.site.registry.samples rs.site.now
      (p.selection.accepts rs.site.registry.counts) = (registry, some samples)) :
    ∃ host sink outcome,
      p.sink.write (p.writing rs.site.host samples.length) p.name samples = (host, sink, outcome) ∧
      attend reportIfScheduled reportFailed p.name rs =
        (⟨Site.reported { rs.site with registry := registry, host := host } p.name outcome,
          rs.byName.insert p.name (.polled { p with sink := sink })⟩, true) := by
  have hTurn : reportIfScheduled (.polled p) rs.site = Reporter.report (.polled p) rs.site := rfl
  cases hWritten : p.sink.write (p.writing rs.site.host samples.length) p.name samples with
  | mk host rest =>
    obtain ⟨sink, outcome⟩ := rest
    refine ⟨host, sink, outcome, rfl, ?_⟩
    simp only [attend, hAt, hTurn, Reporter.report, hSamples, p.report_eq, hWritten]
    cases outcome <;> rfl

/-- Where gauges answer, the turns of reporters that poll make up a round. -/
theorem round_inTurn (hNodup : (ps.map Polled.name).Nodup)
    (hAt : ∀ p ∈ ps, rs.byName.get? p.name = some (.polled p))
    (hAnswering : rs.site.registry.Answering) :
    (inTurn (attend reportIfScheduled reportFailed) (ps.map Polled.name) rs).2 = true ∧
      Round ps rs.site
        (inTurn (attend reportIfScheduled reportFailed) (ps.map Polled.name) rs).1.site := by
  induction ps generalizing rs with
  | nil => exact ⟨rfl, .none rs.site⟩
  | cons p rest ih =>
    obtain ⟨hNotIn, hRest⟩ := List.nodup_cons.mp hNodup
    obtain ⟨hFirst, hOthers⟩ := List.forall_mem_cons.mp hAt
    cases hSamples : rs.site.registry.samples rs.site.now
        (p.selection.accepts rs.site.registry.counts) with
    | mk registry found =>
    obtain ⟨⟨samples, hSome⟩, hStill⟩ :=
      hAnswering.samples rs.site.now (p.selection.accepts rs.site.registry.counts)
    rw [hSamples] at hSome hStill
    obtain rfl : found = some samples := hSome
    obtain ⟨host, sink, outcome, hWritten, hTurn⟩ := attend_report hFirst hSamples
    rw [List.map_cons, inTurn_cons, hTurn, if_pos rfl]
    -- the others are as they were, and the gauges still answer
    have hOthers' : ∀ q ∈ rest,
        (rs.byName.insert p.name (.polled { p with sink := sink })).get? q.name =
          some (.polled q) := by
      intro q hq
      have hNe : q.name ≠ p.name := fun hSame =>
        hNotIn (hSame ▸ List.mem_map_of_mem (f := Polled.name) hq)
      rw [NameMap.get?_insert_of_ne _ hNe, hOthers q hq]
    have hSite : (Site.reported { rs.site with registry := registry, host := host } p.name
        outcome).registry.Answering := by
      rw [Site.registry_reported]
      exact hStill
    obtain ⟨hEnds, hRound⟩ := @ih ⟨_, _⟩ hRest hOthers' hSite
    exact ⟨hEnds, .next hSamples hWritten hRound⟩

/-- To let all report is a round of all reporters, if all of them poll and gauges answer. -/
theorem round_reportAll (hNames : ps.map Polled.name = rs.byName.names)
    (hAt : ∀ p ∈ ps, rs.byName.get? p.name = some (.polled p))
    (hAnswering : rs.site.registry.Answering) :
    rs.reportAll.2 = true ∧ Round ps rs.site rs.reportAll.1.site := by
  have hNodup : (ps.map Polled.name).Nodup := hNames ▸ rs.nodup_names
  have hRound := round_inTurn hNodup hAt hAnswering
  rw [hNames] at hRound
  exact hRound

end Reporters

end Metering
