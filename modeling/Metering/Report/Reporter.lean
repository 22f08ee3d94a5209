import Metering.Report.Polled
import Metering.Site

/-!
# Metering — reporters

* `Mode` — whether a reporter polls the metrics or follows their changes;
* `Scripted` — a reporter that only does as it is told, and puts down each call;
* `Reporter` — a reporter of either sort;
* `Reporter.start`, `Reporter.stop`, `Reporter.report` — the calls, and how they end.
-/

namespace Metering.Report

/-- How a reporter gets to know the metrics: it polls them, or it follows their changes and has
to be started anew when levels change. -/
inductive Mode where
  | scheduled
  | listening
  deriving DecidableEq

/-- The name of the mode. -/
def Mode.label : Mode → String
  | scheduled => "Scheduled"
  | listening => "Listening"

/-- How a call of a reporter ends. -/
inductive Outcome where
  | done
  | failed (fault : ReportFault)
  | brokenOff
  deriving DecidableEq

/-! ## Scripted reporters -/

/-- How a call of a scripted reporter is to end. -/
inductive Verdict where
  | well
  | disabled
  | failing
  /-- It does as it is told, and fails all the same. -/
  | grudging
  | breaking
  deriving DecidableEq

/-- Whether the reporter does as it is told. -/
def Verdict.obeys : Verdict → Bool
  | well | grudging => true
  | disabled | failing | breaking => false

/-- A reporter that puts down each call under its tag. For each kind of call it has verdicts for
the next calls; the calls after those end well. -/
structure Scripted where
  name : String
  tag : String
  mode : Mode
  running : Bool
  starts : List Verdict
  stops : List Verdict
  reports : List Verdict

namespace Scripted

/-- The verdicts for the next calls of a kind. -/
def verdicts (s : Scripted) : Call → List Verdict
  | .start => s.starts
  | .stop => s.stops
  | .report => s.reports

/-- The reporter after a call of a kind has used up its verdict. -/
def spent (s : Scripted) : Call → Scripted
  | .start => { s with starts := s.starts.tail }
  | .stop => { s with stops := s.stops.tail }
  | .report => { s with reports := s.reports.tail }

/-- The reporter after it has done as it was told: a start makes it run, a stop makes it rest. -/
def followed (s : Scripted) : Call → Scripted
  | .start => { s with running := true }
  | .stop => { s with running := false }
  | .report => s

/-- How a verdict looks to the caller. -/
def outcome (s : Scripted) (call : Call) : Verdict → Outcome
  | .well => .done
  | .disabled => .failed (.disabled s.name)
  | .failing | .grudging => .failed (.failed s.name s!"mock {call.label}")
  | .breaking => .brokenOff

/-- Calls the reporter. -/
def call (s : Scripted) (c : Call) (site : Site) : Site × Scripted × Outcome :=
  let verdict := (s.verdicts c).headD .well
  let site := site.note (.called s.tag c (verdict = .well))
  let s := s.spent c
  (site, if verdict.obeys then s.followed c else s, s.outcome c verdict)

end Scripted

/-! ## Reporters of either sort -/

/-- A reporter. -/
inductive Reporter where
  | polled (p : Polled)
  | scripted (s : Scripted)

namespace Reporter

/-- The reporter's name. -/
def name : Reporter → String
  | polled p => p.name
  | scripted s => s.name

/-- How the reporter gets to know the metrics. -/
def mode : Reporter → Mode
  | polled _ => .scheduled
  | scripted s => s.mode

/-- Whether the reporter runs. -/
def running : Reporter → Bool
  | polled p => p.running
  | scripted s => s.running

/-- Starts a reporter. -/
def start (r : Reporter) (site : Site) : Site × Reporter × Outcome :=
  match r with
  | polled p =>
    let (host, p, well) := p.start site.host
    ({ site with host := host }, polled p, if well then .done else .brokenOff)
  | scripted s =>
    let (site, s, outcome) := s.call .start site
    (site, scripted s, outcome)

/-- Stops a reporter. -/
def stop (r : Reporter) (site : Site) : Site × Reporter × Outcome :=
  match r with
  | polled p =>
    let (host, p) := p.stop site.host
    ({ site with host := host }, polled p, .done)
  | scripted s =>
    let (site, s, outcome) := s.call .stop site
    (site, scripted s, outcome)

/-- Lets a reporter report: one that polls writes the samples of the metrics that count and pass
its filter. -/
def report (r : Reporter) (site : Site) : Site × Reporter × Outcome :=
  match r with
  | polled p =>
    let accepts := p.selection.accepts site.registry.counts
    match site.registry.samples site.now accepts with
    | (registry, none) => ({ site with registry := registry }, polled p, .brokenOff)
    | (registry, some samples) =>
      let (host, p, written) := p.report site.host samples
      let site : Site := { site with registry := registry, host := host }
      match written with
      | .ok () => (site, polled p, .done)
      | .error fault => (site, polled p, .failed fault)
  | scripted s =>
    let (site, s, outcome) := s.call .report site
    (site, scripted s, outcome)

/-- Stops a reporter that runs and then starts it, unless the stop failed. -/
def restart (r : Reporter) (site : Site) : Site × Reporter × Outcome :=
  match r.stop site with
  | (site, r, .done) => r.start site
  | stopped => stopped

/-- The site after a reporter was given up: one that polls is stopped first, if it runs. -/
def giveUp (site : Site) : Reporter → Site
  | polled p => { site with host := (p.stop site.host).1 }
  | scripted _ => site

end Reporter

end Metering.Report
