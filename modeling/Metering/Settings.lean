import Metering.Document.Shape
import Metering.LevelMap
import Metering.Report.Filter
import Metering.Report.Line
import Metering.Statistic.Reservoir

/-!
# Metering — settings

What is configured: whether metrics count, at which levels, how values are kept for
distributions, and which reporters there are.

* `Settings` and its parts — the settings;
* `Settings.shape` — how they are written in a document;
* `Settings.ofDatum?`, `Settings.toDatum` — from and to documents; a missing field has the
  default of the part it belongs to.
-/

namespace Metering

/-! ## The parts -/

/-- Whether the last values are kept, or those of the last time. -/
inductive ReservoirKind where
  | lastValues
  | lastTime
  deriving DecidableEq

/-- How values are kept for distributions. -/
structure ReservoirSettings where
  kind : ReservoirKind
  /-- How many of the last values are kept. -/
  size : UInt64
  /-- For how many seconds values are kept. -/
  seconds : UInt64
  deriving DecidableEq

/-- The usual way to keep values. -/
def ReservoirSettings.usual : ReservoirSettings := ⟨.lastValues, 1028, 60⟩

/-- The window of values that are kept: at least one value, or one second. -/
def ReservoirSettings.window (r : ReservoirSettings) : Window :=
  match r.kind with
  | .lastValues => .last r.size.toNat
  | .lastTime => .time (Duration.of (max r.seconds.toNat 1) 0)

/-- What all reporters have in common. The period is in seconds. -/
structure ReporterSettings where
  name : String
  enabled : Bool
  period : UInt64
  filter : Report.NameFilter

/-- A reporter that is off, reports every minute and lets all names through. -/
def ReporterSettings.usual (name : String) : ReporterSettings := ⟨name, false, 60, .all⟩

/-- A reporter that writes lines into the log under a target. -/
structure LogSettings extends ReporterSettings where
  target : String
  format : Report.LineFormat

/-- The usual log reporter. -/
def LogSettings.usual : LogSettings := ⟨.usual "Log", "metrics", .text⟩

/-- A reporter that writes tables into the files of a directory. -/
structure TableSettings extends ReporterSettings where
  location : Option String

/-- The usual reporter of tables. -/
def TableSettings.usual : TableSettings := ⟨.usual "CSV", none⟩

/-- The built-in reporters. -/
structure ReportingSettings where
  console : ReporterSettings
  log : LogSettings
  table : TableSettings

/-- The usual reporters. -/
def ReportingSettings.usual : ReportingSettings := ⟨.usual "Console", .usual, .usual⟩

/-- The names of the reporters, enabled or not. -/
def ReportingSettings.names (r : ReportingSettings) : List String :=
  [r.console.name, r.log.name, r.table.name]

/-- All that is configured. -/
structure Settings where
  enabled : Bool
  levels : LevelMap
  reservoir : ReservoirSettings
  reporting : ReportingSettings

/-- The settings of an empty document. -/
def Settings.usual : Settings := ⟨true, .ofRoot default, .usual, .usual⟩

/-! ## Words -/

/-- The word for a kind of reservoir. -/
def ReservoirKind.word : ReservoirKind → String
  | lastValues => "sliding_window"
  | lastTime => "sliding_time_window"

/-- The kind of reservoir of a word. -/
def ReservoirKind.ofWord? (w : String) : Option ReservoirKind :=
  [lastValues, lastTime].find? fun kind => kind.word == w

/-- The word for a format of lines. -/
def Report.LineFormat.word : Report.LineFormat → String
  | text => "text"
  | json => "json"

/-- The format of lines of a word. -/
def Report.LineFormat.ofWord? (w : String) : Option Report.LineFormat :=
  [text, json].find? fun format => format.word == w

/-! ## Shapes -/

namespace Settings

/-- The shape of a filter. -/
def filterShape : Shape :=
  .record "NameFilterConfig"
    [("use_regex_filters", .switch), ("includes", .list .text), ("excludes", .list .text)]

/-- The fields that all reporters have. -/
def reporterFields : List (String × Shape) :=
  [("name", .text), ("enabled", .switch), ("polling_period", .word), ("filter", filterShape)]

/-- The shape of the levels. -/
def levelsShape : Shape :=
  .record "LevelsConfig" [("root_level", .text), ("levels", .map .text)]

/-- The shape of the reservoir. -/
def reservoirShape : Shape :=
  .record "ReservoirConfig"
    [("kind", .choice ["sliding_window", "sliding_time_window"]), ("window_size", .word),
      ("window_secs", .word)]

/-- The shape of the reporters. -/
def reportingShape : Shape :=
  .record "ReportingConfig"
    [("console", .record "ConsoleReporterConfig" reporterFields),
      ("log", .record "LogReporterConfig"
        (reporterFields ++ [("target", .text), ("format", .choice ["text", "json"])])),
      ("csv", .record "CsvReporterConfig" (reporterFields ++ [("location", .optional .text)]))]

/-- The shape of a settings document. -/
def shape : Shape :=
  .record "MetricsConfig"
    [("enabled", .switch), ("levels", levelsShape), ("reservoir", reservoirShape),
      ("reporting", reportingShape)]

end Settings

/-! ## From documents -/

/-- A list of names as a set. -/
def namesOfDatum? (d : Datum) : Option NameSet := do
  return NameSet.ofList (← (← d.asList?).mapM Datum.asText?)

/-- A level by its written form. -/
def levelOfDatum? (d : Datum) : Option Level := d.asText?.bind Level.ofText?

/-- Levels under names, of which a later one takes the place of an earlier one. -/
def namedLevelsOfDatum? (d : Datum) : Option (NameMap Level) := do
  let entries ← (← d.asMap?).mapM fun e => (levelOfDatum? e.2).map fun level => (e.1, level)
  return NameMap.ofList entries

/-- The levels of a record. -/
def LevelMap.ofDatum? (d : Datum) : Option LevelMap := do
  let root ← d.fieldOr "root_level" levelOfDatum? default
  let named ← d.fieldOr "levels" namedLevelsOfDatum? .empty
  return ⟨root, named⟩

/-- The filter of a record. -/
def Report.NameFilter.ofDatum? (d : Datum) : Option Report.NameFilter := do
  let useExpressions ← d.fieldOr "use_regex_filters" Datum.asSwitch? false
  let includes ← d.fieldOr "includes" namesOfDatum? .empty
  let excludes ← d.fieldOr "excludes" namesOfDatum? .empty
  return ⟨useExpressions, includes, excludes⟩

/-- The reservoir of a record. -/
def ReservoirSettings.ofDatum? (d : Datum) : Option ReservoirSettings := do
  let kind ← d.fieldOr "kind" (fun k => k.asChoice?.bind ReservoirKind.ofWord?) usual.kind
  let size ← d.fieldOr "window_size" Datum.asWord? usual.size
  let seconds ← d.fieldOr "window_secs" Datum.asWord? usual.seconds
  return ⟨kind, size, seconds⟩

/-- What a record says of any reporter, with the defaults of the given one. -/
def ReporterSettings.ofDatum? (usual : ReporterSettings) (d : Datum) : Option ReporterSettings := do
  let name ← d.fieldOr "name" Datum.asText? usual.name
  let enabled ← d.fieldOr "enabled" Datum.asSwitch? usual.enabled
  let period ← d.fieldOr "polling_period" Datum.asWord? usual.period
  let filter ← d.fieldOr "filter" Report.NameFilter.ofDatum? usual.filter
  return ⟨name, enabled, period, filter⟩

/-- The log reporter of a record. -/
def LogSettings.ofDatum? (d : Datum) : Option LogSettings := do
  let common ← ReporterSettings.ofDatum? usual.toReporterSettings d
  let target ← d.fieldOr "target" Datum.asText? usual.target
  let format ← d.fieldOr "format" (fun f => f.asChoice?.bind Report.LineFormat.ofWord?)
    usual.format
  return ⟨common, target, format⟩

/-- A location that may be absent. -/
def locationOfDatum? (d : Datum) : Option (Option String) := do
  match ← d.asOptional? with
  | some path => return some (← path.asText?)
  | none => return none

/-- The reporter of tables of a record. -/
def TableSettings.ofDatum? (d : Datum) : Option TableSettings := do
  let common ← ReporterSettings.ofDatum? usual.toReporterSettings d
  let location ← d.fieldOr "location" locationOfDatum? usual.location
  return ⟨common, location⟩

/-- The reporters of a record. -/
def ReportingSettings.ofDatum? (d : Datum) : Option ReportingSettings := do
  let console ← d.fieldOr "console" (ReporterSettings.ofDatum? usual.console) usual.console
  let log ← d.fieldOr "log" LogSettings.ofDatum? usual.log
  let table ← d.fieldOr "csv" TableSettings.ofDatum? usual.table
  return ⟨console, log, table⟩

/-- The settings of a document. -/
def Settings.ofDatum? (d : Datum) : Option Settings := do
  let enabled ← d.fieldOr "enabled" Datum.asSwitch? usual.enabled
  let levels ← d.fieldOr "levels" LevelMap.ofDatum? usual.levels
  let reservoir ← d.fieldOr "reservoir" ReservoirSettings.ofDatum? usual.reservoir
  let reporting ← d.fieldOr "reporting" ReportingSettings.ofDatum? usual.reporting
  return ⟨enabled, levels, reservoir, reporting⟩

/-! ## To documents -/

/-- A set as a list of names. -/
def NameSet.toDatum (names : NameSet) : Datum := .list (names.names.map .text)

/-- The levels as a record. -/
def LevelMap.toDatum (m : LevelMap) : Datum :=
  .record [("root_level", .text m.root.label),
    ("levels", .map (m.named.toList.map fun e => (e.1, .text e.2.label)))]

/-- A filter as a record. -/
def Report.NameFilter.toDatum (f : Report.NameFilter) : Datum :=
  .record [("use_regex_filters", .switch f.useExpressions),
    ("includes", NameSet.toDatum f.includes), ("excludes", NameSet.toDatum f.excludes)]

/-- A reservoir as a record. -/
def ReservoirSettings.toDatum (r : ReservoirSettings) : Datum :=
  .record [("kind", .choice r.kind.word), ("window_size", .word r.size),
    ("window_secs", .word r.seconds)]

/-- The fields that all reporters have. -/
def ReporterSettings.toFields (r : ReporterSettings) : List (String × Datum) :=
  [("name", .text r.name), ("enabled", .switch r.enabled), ("polling_period", .word r.period),
    ("filter", r.filter.toDatum)]

/-- The log reporter as a record. -/
def LogSettings.toDatum (r : LogSettings) : Datum :=
  .record (r.toFields ++ [("target", .text r.target), ("format", .choice r.format.word)])

/-- What may be absent. -/
def locationDatum : Option String → Datum
  | some path => .present (.text path)
  | none => .absent

/-- The reporter of tables as a record. -/
def TableSettings.toDatum (r : TableSettings) : Datum :=
  .record (r.toFields ++ [("location", locationDatum r.location)])

/-- The reporters as a record. -/
def ReportingSettings.toDatum (r : ReportingSettings) : Datum :=
  .record [("console", .record r.console.toFields), ("log", r.log.toDatum),
    ("csv", r.table.toDatum)]

/-- The settings as a document. -/
def Settings.toDatum (s : Settings) : Datum :=
  .record [("enabled", .switch s.enabled), ("levels", s.levels.toDatum),
    ("reservoir", s.reservoir.toDatum), ("reporting", s.reporting.toDatum)]

end Metering
