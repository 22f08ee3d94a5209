import Metering.Report.Reporter

/-!
# Metering — how calls of reporters end

* `Scripted.call_well` — a call of a scripted reporter that is to end well;
* `Polled.report_eq` — the cycle of a reporter that polls is one write of its sink;
* `Reliable` — a reporter that can be started and stopped at any time, with `Reliable.start`,
  `Reliable.stop`, `Reliable.restart` and `Reliable.report`;
* `registry_start`, `registry_stop`, … — calls of reporters change nothing of the registry, but
  that gauges are asked for their values;
* `running_of_started` — reporters run after a start that succeeds;
* `BuiltIn.build_running`, `BuiltIn.log_build` — reporters do not run when they are built, and the
  log keeps what it has.
-/

namespace Metering.Report

/-- A call for which no other end than a good one is scripted. -/
theorem Scripted.call_well {s : Scripted} {c : Call} (h : ∀ v ∈ s.verdicts c, v = .well)
    (site : Site) :
    s.call c site = (site.note (.called s.tag c true), (s.spent c).followed c, .done) := by
  have hVerdict : (s.verdicts c).headD .well = .well := by
    cases hVerdicts : s.verdicts c with
    | nil => rfl
    | cons v rest => exact h v (hVerdicts ▸ List.mem_cons_self)
  simp only [Scripted.call, hVerdict, decide_true]
  rfl

/-- A reporter that polls runs already, or it can have a worker, or its start breaks off. -/
theorem Polled.start_cases (p : Polled) (h : Host) :
    (p.running = true ∧ p.start h = (h, p, true)) ∨
    (canWork p.name = true ∧ ∃ after, p.start h = (after, { p with running := true }, true)) ∨
    (canWork p.name = false ∧ p.start h = (h, p, false)) := by
  rw [start]
  split
  · next hRuns => exact .inl ⟨hRuns, rfl⟩
  · split
    · next hWork => exact .inr (.inl ⟨hWork, _, rfl⟩)
    · next hWork => exact .inr (.inr ⟨Bool.eq_false_iff.mpr hWork, rfl⟩)

/-- The host when a reporter hands so many samples to its sink: the log says that it does. -/
def Polled.writing (p : Polled) (h : Host) (count : Nat) : Host :=
  h.say .trace s!"Reporter '{p.name}' writing {count} samples."

/-- A cycle is one write of the sink, whose outcome is that of the cycle. -/
theorem Polled.report_eq (p : Polled) (h : Host) (samples : List Sample) :
    let written := p.sink.write (p.writing h samples.length) p.name samples
    p.report h samples = (written.1, { p with sink := written.2.1 }, written.2.2) := rfl

namespace Reporter

variable {r : Reporter}

/-! ## What calls leave alone -/

theorem registry_start (r : Reporter) (site : Site) :
    (r.start site).1.registry = site.registry := by
  cases r <;> rfl

theorem registry_stop (r : Reporter) (site : Site) :
    (r.stop site).1.registry = site.registry := by
  cases r <;> rfl

theorem registry_restart (r : Reporter) (site : Site) :
    (r.restart site).1.registry = site.registry := by
  have hStop := registry_stop r site
  rw [restart]
  split
  · next site' r' h =>
    rw [h] at hStop
    rw [registry_start]
    exact hStop
  · exact hStop

theorem registry_giveUp (r : Reporter) (site : Site) :
    (r.giveUp site).registry = site.registry := by
  cases r <;> rfl

/-- A report asks gauges for their values, and writes. -/
theorem report_polled (p : Polled) (site : Site) : ∃ host statistics sink outcome,
    (polled p).report site = ({ site with
        registry := { site.registry with statistics := statistics }
        host := host }, polled { p with sink := sink }, outcome) := by
  simp only [report, Registry.samples]
  cases (site.registry.store.samples site.registry.statistics site.now
    (p.selection.accepts site.registry.counts)).2 with
  | none => exact ⟨_, _, _, _, rfl⟩
  | some samples =>
    dsimp only
    cases (p.report site.host samples).2.2 <;> exact ⟨_, _, _, _, rfl⟩

theorem report_scripted (s : Scripted) (site : Site) : ∃ note outcome,
    (scripted s).report site = (site.note note, scripted (s.spent .report), outcome) := by
  simp only [report, Scripted.call]
  split <;> exact ⟨_, _, rfl⟩

theorem enabled_report (r : Reporter) (site : Site) :
    (r.report site).1.registry.enabled = site.registry.enabled := by
  cases r with
  | polled p =>
    obtain ⟨host, statistics, sink, outcome, h⟩ := report_polled p site
    rw [h]
  | scripted s =>
    obtain ⟨note, outcome, h⟩ := report_scripted s site
    rw [h]
    rfl

/-- A report neither starts nor stops the reporter. -/
theorem running_report (r : Reporter) (site : Site) :
    (r.report site).2.1.running = r.running := by
  cases r with
  | polled p =>
    obtain ⟨host, statistics, sink, outcome, h⟩ := report_polled p site
    rw [h]
    rfl
  | scripted s =>
    obtain ⟨note, outcome, h⟩ := report_scripted s site
    rw [h]
    rfl

/-! ## Starting -/

/-- A reporter whose start succeeds runs. -/
theorem running_of_started {site : Site} (h : (r.start site).2.2 = .done) :
    (r.start site).2.1.running = true := by
  cases r with
  | polled p =>
    rcases p.start_cases site.host with ⟨hRuns, hStart⟩ | ⟨-, host, hStart⟩ | ⟨-, hStart⟩
    · rw [start, hStart]
      exact hRuns
    · rw [start, hStart]
      rfl
    · rw [start, hStart] at h
      cases h
  | scripted s =>
    simp only [start, Scripted.call] at h ⊢
    split
    · rfl
    · -- no other verdict lets a call succeed
      cases hVerdict : (s.verdicts .start).headD .well <;>
        simp_all [Scripted.outcome, Verdict.obeys]

/-! ## Reliable reporters -/

/-- A reporter that can be started and stopped at any time: a thread can be named after one that
polls, and no other end than a good one is scripted. -/
def Reliable : Reporter → Prop
  | polled p => canWork p.name = true
  | scripted s => (∀ v ∈ s.starts, v = .well) ∧ ∀ v ∈ s.stops, v = .well

theorem Reliable.start (h : r.Reliable) (site : Site) :
    (r.start site).2.2 = .done ∧ (r.start site).2.1.running = true ∧
      (r.start site).2.1.Reliable := by
  cases r with
  | polled p =>
    have hWork : canWork p.name = true := h
    rcases p.start_cases site.host with ⟨hRuns, hStart⟩ | ⟨-, host, hStart⟩ | ⟨hCannot, -⟩
    · rw [Reporter.start, hStart]
      exact ⟨rfl, hRuns, hWork⟩
    · rw [Reporter.start, hStart]
      exact ⟨rfl, rfl, hWork⟩
    · rw [hWork] at hCannot
      cases hCannot
  | scripted s =>
    rw [Reporter.start, Scripted.call_well (c := .start) h.1]
    exact ⟨rfl, rfl, fun v hv => h.1 v (List.mem_of_mem_tail hv), h.2⟩

theorem Reliable.stop (h : r.Reliable) (site : Site) :
    (r.stop site).2.2 = .done ∧ (r.stop site).2.1.running = false ∧
      (r.stop site).2.1.Reliable := by
  cases r with
  | polled p =>
    by_cases hRuns : p.running = true
    · rw [Reporter.stop, Polled.stop, if_pos hRuns]
      exact ⟨rfl, rfl, h⟩
    · rw [Reporter.stop, Polled.stop, if_neg hRuns]
      exact ⟨rfl, Bool.eq_false_iff.mpr hRuns, h⟩
  | scripted s =>
    rw [Reporter.stop, Scripted.call_well (c := .stop) h.2]
    exact ⟨rfl, rfl, h.1, fun v hv => h.2 v (List.mem_of_mem_tail hv)⟩

theorem Reliable.restart (h : r.Reliable) (site : Site) :
    (r.restart site).2.2 = .done ∧ (r.restart site).2.1.running = true ∧
      (r.restart site).2.1.Reliable := by
  obtain ⟨hDone, -, hStill⟩ := h.stop site
  cases hStop : r.stop site with
  | mk site' rest =>
    obtain ⟨r', outcome⟩ := rest
    rw [hStop] at hDone hStill
    cases hDone
    simp only [Reporter.restart, hStop]
    exact hStill.start site'

theorem Reliable.report (h : r.Reliable) (site : Site) : (r.report site).2.1.Reliable := by
  cases r with
  | polled p =>
    obtain ⟨host, statistics, sink, outcome, hReport⟩ := report_polled p site
    rw [hReport]
    exact h
  | scripted s =>
    obtain ⟨note, outcome, hReport⟩ := report_scripted s site
    rw [hReport]
    exact h

end Reporter

end Metering.Report

namespace Metering

open Report

/-- Reporters do not run when they are built. -/
theorem BuiltIn.build_running {b : BuiltIn} {host : Host} {room : Option Nat} {p : Polled}
    (h : (b.build host room).2 = .ok p) : p.running = false := by
  cases b with
  | console r =>
    simp only [build, ReporterSettings.build] at h
    split at h
    · cases h
    · cases h
      rfl
  | log r =>
    simp only [build, LogSettings.build] at h
    split at h
    · cases h
    · cases h
      rfl
  | tables r =>
    simp only [build, TableSettings.build] at h
    split at h
    · cases h
    · split at h
      · cases h
      · cases h
        rfl

/-- Building a reporter takes nothing out of the log. -/
theorem BuiltIn.log_build (b : BuiltIn) (host : Host) (room : Option Nat) :
    host.log <+: (b.build host room).1.log := by
  cases b with
  | console r =>
    simp only [build, ReporterSettings.build]
    split
    · exact List.prefix_rfl
    · exact List.prefix_append _ _
  | log r =>
    simp only [build, LogSettings.build]
    split
    · exact List.prefix_rfl
    · exact List.prefix_append _ _
  | tables r =>
    simp only [build, TableSettings.build]
    split
    · exact List.prefix_rfl
    · split
      · exact List.prefix_rfl
      · exact List.prefix_append _ _

end Metering
