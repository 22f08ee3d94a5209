import Metering.Report.Sink
import Metering.Report.Worker
import Metering.Settings

/-!
# Metering — reporters that poll

A polled reporter writes what the metrics show whenever its period is over while it runs, and
whenever it is asked to.

* `Polled` and `Polled.start`, `Polled.stop`, `Polled.report` — the reporter;
* `ReporterSettings.build`, `LogSettings.build`, `TableSettings.build` — the reporters that are
  built in;
* `BuiltIn` — the settings of one of them.
-/

namespace Metering.Report

/-- A reporter that polls. The period is in seconds. -/
structure Polled where
  name : String
  period : Nat
  selection : Selection
  sink : Sink
  running : Bool

namespace Polled

/-- Starts the reporter, unless it runs. It breaks off if no thread can be named after it. -/
def start (p : Polled) (h : Host) : Host × Polled × Bool :=
  if p.running then (h, p, true)
  else if canWork p.name then
    (h.say .info s!"Reporter '{p.name}' started with a {p.period}s polling period.",
      { p with running := true }, true)
  else (h, p, false)

/-- Stops the reporter, if it runs. -/
def stop (p : Polled) (h : Host) : Host × Polled :=
  if p.running then
    (h.say .info s!"Reporter '{p.name}' stopped.", { p with running := false })
  else (h, p)

/-- Writes samples. -/
def report (p : Polled) (h : Host) (samples : List Sample) :
    Host × Polled × Except ReportFault Unit :=
  let h := h.say .trace s!"Reporter '{p.name}' writing {samples.length} samples."
  let (h, sink, outcome) := p.sink.write h p.name samples
  (h, { p with sink := sink }, outcome)

end Polled

end Report

open Report

/-! ## Building -/

/-- Refuses settings that are off. -/
def ReporterSettings.checkEnabled (r : ReporterSettings) : Except ReportFault Unit :=
  if r.enabled then .ok () else .error (.disabled r.name)

/-- Refuses a period below one second. -/
def ReporterSettings.checkPeriod (r : ReporterSettings) : Except ReportFault Unit :=
  if r.period = 0 then .error (.build r.name .shortPeriod) else .ok ()

/-- The reporter of settings that have been checked, not running. -/
def ReporterSettings.polled (r : ReporterSettings) (selection : Selection) (sink : Sink) : Polled :=
  ⟨r.name, r.period.toNat, selection, sink, false⟩

/-- Builds a reporter that writes pages to the standard output or, if there is one, a writer. -/
def ReporterSettings.build (r : ReporterSettings) (h : Host) (room : Option Nat) :
    Host × Except ReportFault Polled :=
  let checked : Except ReportFault Selection := do
    r.checkEnabled
    r.checkPeriod
    r.filter.read r.name
  match checked with
  | .error fault => (h, .error fault)
  | .ok selection =>
    (h.say .info s!"Creating console reporter '{r.name}' with a {r.period} seconds polling period.",
      .ok (r.polled selection (match room with
        | some room => .writer (some room)
        | none => .console)))

/-- Builds a reporter that writes lines into the log. -/
def LogSettings.build (r : LogSettings) (h : Host) : Host × Except ReportFault Polled :=
  let checked : Except ReportFault Selection := do
    r.checkEnabled
    if Text.trimmed r.target.toList = [] then throw (.build r.name .noTarget)
    r.checkPeriod
    r.filter.read r.name
  match checked with
  | .error fault => (h, .error fault)
  | .ok selection =>
    (h.say .info (s!"Creating log reporter '{r.name}' with target '{r.target}' and a " ++
        s!"{r.period} seconds polling period."),
      .ok (r.polled selection (.log r.target r.format)))

/-- The directory for tables, made if it is not there. -/
def prepareDirectory (files : Files) (reporter path : String) :
    Files × Except ReportFault Unit :=
  let (files, made) := if files.exists? path then (files, true) else files.makeAll path
  if !made then (files, .error (.io reporter))
  else if files.isDirectory path then (files, .ok ())
  else (files, .error (.build reporter (.noDirectory path)))

/-- Builds a reporter that writes tables into the files of a directory. -/
def TableSettings.build (r : TableSettings) (h : Host) : Host × Except ReportFault Polled :=
  let checked : Except ReportFault (String × Selection) := do
    r.checkEnabled
    let location ← match r.location.filter (· ≠ "") with
      | some location => pure location
      | none => throw (.build r.name .noLocation)
    r.checkPeriod
    return (location, ← r.filter.read r.name)
  match checked with
  | .error fault => (h, .error fault)
  | .ok (location, selection) =>
    match prepareDirectory h.files r.name location with
    | (files, .error fault) => ({ h with files := files }, .error fault)
    | (files, .ok ()) =>
      (({ h with files := files } : Host).say .info
          s!"Creating CSV reporter '{r.name}' writing to {location} every {r.period} seconds.",
        .ok (r.polled selection (.tables location)))

/-- The settings of a reporter that is built in. -/
inductive BuiltIn where
  | console (r : ReporterSettings)
  | log (r : LogSettings)
  | tables (r : TableSettings)

/-- The settings of the three reporters, in the order in which they are built. -/
def ReportingSettings.builtIns (r : ReportingSettings) : List BuiltIn :=
  [.console r.console, .log r.log, .tables r.table]

/-- Builds the reporter. What would go to the standard output goes to a writer, if there is
one. -/
def BuiltIn.build (b : BuiltIn) (h : Host) (room : Option Nat) :
    Host × Except ReportFault Polled :=
  match b with
  | console r => r.build h room
  | log r => r.build h
  | tables r => r.build h

end Metering
