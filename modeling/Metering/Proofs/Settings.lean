import Metering.Proofs.NameMap
import Metering.Proofs.Ron.RoundTrip
import Metering.Settings.Text

/-!
# Metering — settings that were written are read

Settings become a document field by field, and each part of the document gives back the part of the
settings that it was made from. Where fields are deleted from the document, at whatever depth, they
have the defaults of the part that they belong to. Every part has the shape that a reader asks for,
so the text of the document gives back the document.

* `Settings.toDatum_fits` — the document of settings has the shape of a settings document, and so do
  its parts;
* `Settings.reset` — settings with the defaults in the place of some fields;
* `Settings.ofDatum?_without` — what a document gives back without some fields, and what its parts
  do, with `ofDatum?_toDatum` for a whole one;
* `Settings.ofRon?_toRon` — settings are read from the text that they are written as.
-/

namespace Metering

/-! ## The shape of the document -/

theorem NameSet.toDatum_fits (names : NameSet) : Shape.Fits (.list .text) names.toDatum := by
  refine .list fun d hd => ?_
  obtain ⟨name, -, rfl⟩ := List.mem_map.mp hd
  exact .text name

theorem Report.NameFilter.toDatum_fits (f : Report.NameFilter) :
    Settings.filterShape.Fits f.toDatum :=
  .ofFields (by decide)
    (.cons ⟨rfl, .switch f.useExpressions⟩
      (.cons ⟨rfl, f.includes.toDatum_fits⟩ (.cons ⟨rfl, f.excludes.toDatum_fits⟩ .nil)))

theorem LevelMap.toDatum_fits (m : LevelMap) : Settings.levelsShape.Fits m.toDatum := by
  have hNamed : Shape.Fits (.map .text)
      (.map (m.named.toList.map fun e => (e.1, .text e.2.label))) := by
    refine .map fun e he => ?_
    obtain ⟨entry, -, rfl⟩ := List.mem_map.mp he
    exact .text entry.2.label
  exact .ofFields (by decide) (.cons ⟨rfl, .text m.root.label⟩ (.cons ⟨rfl, hNamed⟩ .nil))

theorem ReservoirSettings.toDatum_fits (r : ReservoirSettings) :
    Settings.reservoirShape.Fits r.toDatum := by
  have hKind : Shape.Fits (.choice ["sliding_window", "sliding_time_window"])
      (.choice r.kind.word) := by
    cases r.kind <;> exact .choice (by decide)
  exact .ofFields (by decide)
    (.cons ⟨rfl, hKind⟩ (.cons ⟨rfl, .word r.size⟩ (.cons ⟨rfl, .word r.seconds⟩ .nil)))

/-- The fields that all reporters have. -/
theorem ReporterSettings.toFields_fit (r : ReporterSettings) :
    FieldsFit r.toFields Settings.reporterFields :=
  .cons ⟨rfl, .text r.name⟩ (.cons ⟨rfl, .switch r.enabled⟩
    (.cons ⟨rfl, .word r.period⟩ (.cons ⟨rfl, r.filter.toDatum_fits⟩ .nil)))

theorem LogSettings.toDatum_fits (r : LogSettings) :
    Shape.Fits (.record "LogReporterConfig" (Settings.reporterFields ++
      [("target", .text), ("format", .choice ["text", "json"])])) r.toDatum := by
  have hFormat : Shape.Fits (.choice ["text", "json"]) (.choice r.format.word) := by
    cases r.format <;> exact .choice (by decide)
  have hOwn : FieldsFit [("target", .text r.target), ("format", .choice r.format.word)]
      [("target", .text), ("format", .choice ["text", "json"])] :=
    .cons ⟨rfl, .text r.target⟩ (.cons ⟨rfl, hFormat⟩ .nil)
  exact .ofFields (by decide) (List.rel_append r.toFields_fit hOwn)

theorem TableSettings.toDatum_fits (r : TableSettings) :
    Shape.Fits (.record "CsvReporterConfig" (Settings.reporterFields ++
      [("location", .optional .text)])) r.toDatum := by
  have hLocation : Shape.Fits (.optional .text) (locationDatum r.location) := by
    cases r.location with
    | none => exact .absent
    | some path => exact .present nofun (.text path)
  have hOwn : FieldsFit [("location", locationDatum r.location)] [("location", .optional .text)] :=
    .cons ⟨rfl, hLocation⟩ .nil
  exact .ofFields (by decide) (List.rel_append r.toFields_fit hOwn)

theorem ReportingSettings.toDatum_fits (r : ReportingSettings) :
    Settings.reportingShape.Fits r.toDatum := by
  have hConsole : Shape.Fits (.record "ConsoleReporterConfig" Settings.reporterFields)
      (.record r.console.toFields) := .ofFields (by decide) r.console.toFields_fit
  exact .ofFields (by decide)
    (.cons ⟨rfl, hConsole⟩ (.cons ⟨rfl, r.log.toDatum_fits⟩
      (.cons ⟨rfl, r.table.toDatum_fits⟩ .nil)))

/-- The document of settings has the shape that is read. -/
theorem Settings.toDatum_fits (s : Settings) : Settings.shape.Fits s.toDatum :=
  .ofFields (by decide)
    (.cons ⟨rfl, .switch s.enabled⟩ (.cons ⟨rfl, s.levels.toDatum_fits⟩
      (.cons ⟨rfl, s.reservoir.toDatum_fits⟩ (.cons ⟨rfl, s.reporting.toDatum_fits⟩ .nil))))

/-- It can be written as RON, however deep it may be nested. -/
theorem Settings.fits (s : Settings) (depth : Nat) :
    Ron.Fits (depth + 10) Settings.shape s.toDatum :=
  .of_shape s.toDatum_fits (by decide) (Nat.le_add_left 10 depth)

/-! ## Defaults -/

/-- Levels with the defaults in the place of some fields. -/
def LevelMap.reset (m : LevelMap) (gone : Deletion) : LevelMap where
  root := gone.keep "root_level" Settings.usual.levels.root m.root
  named := gone.keep "levels" Settings.usual.levels.named m.named

/-- A filter with the defaults in the place of some fields. -/
def Report.NameFilter.reset (f : NameFilter) (gone : Deletion) : NameFilter where
  useExpressions := gone.keep "use_regex_filters" NameFilter.all.useExpressions f.useExpressions
  includes := gone.keep "includes" NameFilter.all.includes f.includes
  excludes := gone.keep "excludes" NameFilter.all.excludes f.excludes

/-- A reservoir with the defaults in the place of some fields. -/
def ReservoirSettings.reset (r : ReservoirSettings) (gone : Deletion) : ReservoirSettings where
  kind := gone.keep "kind" usual.kind r.kind
  size := gone.keep "window_size" usual.size r.size
  seconds := gone.keep "window_secs" usual.seconds r.seconds

/-- What all reporters have in common, with the given defaults in the place of some fields. -/
def ReporterSettings.reset (usual r : ReporterSettings) (gone : Deletion) : ReporterSettings where
  name := gone.keep "name" usual.name r.name
  enabled := gone.keep "enabled" usual.enabled r.enabled
  period := gone.keep "polling_period" usual.period r.period
  filter := gone.keep "filter" usual.filter (r.filter.reset (gone.under "filter"))

/-- A log reporter with the defaults in the place of some fields. -/
def LogSettings.reset (r : LogSettings) (gone : Deletion) : LogSettings where
  toReporterSettings := ReporterSettings.reset usual.toReporterSettings r.toReporterSettings gone
  target := gone.keep "target" usual.target r.target
  format := gone.keep "format" usual.format r.format

/-- A reporter of tables with the defaults in the place of some fields. -/
def TableSettings.reset (r : TableSettings) (gone : Deletion) : TableSettings where
  toReporterSettings := ReporterSettings.reset usual.toReporterSettings r.toReporterSettings gone
  location := gone.keep "location" usual.location r.location

/-- Reporters with the defaults in the place of some fields, at any depth. -/
def ReportingSettings.reset (r : ReportingSettings) (gone : Deletion) : ReportingSettings where
  console := gone.keep "console" usual.console
    (ReporterSettings.reset usual.console r.console (gone.under "console"))
  log := gone.keep "log" usual.log (r.log.reset (gone.under "log"))
  table := gone.keep "csv" usual.table (r.table.reset (gone.under "csv"))

/-- Settings with the defaults in the place of some fields, at any depth. A field has the default of
the part that it belongs to. -/
def Settings.reset (s : Settings) (gone : Deletion) : Settings where
  enabled := gone.keep "enabled" usual.enabled s.enabled
  levels := gone.keep "levels" usual.levels (s.levels.reset (gone.under "levels"))
  reservoir := gone.keep "reservoir" usual.reservoir (s.reservoir.reset (gone.under "reservoir"))
  reporting := gone.keep "reporting" usual.reporting (s.reporting.reset (gone.under "reporting"))

theorem Settings.reset_none (s : Settings) : s.reset .none = s := rfl

/-! ## From the document -/

/-- A level is read from its label. -/
theorem Level.ofText?_label (level : Level) : Level.ofText? level.label = some level := by
  cases level <;> decide

theorem ReservoirKind.ofWord?_word (kind : ReservoirKind) :
    ReservoirKind.ofWord? kind.word = some kind := by
  cases kind <;> decide

theorem Report.LineFormat.ofWord?_word (format : Report.LineFormat) :
    Report.LineFormat.ofWord? format.word = some format := by
  cases format <;> decide

theorem NameSet.ofList_names (names : NameSet) : NameSet.ofList names.names = names := by
  -- the names of a set say all that its entries do
  have hEntries : names.names.map (fun name => (name, ())) = names.toList := by
    rw [NameMap.names, List.map_map]
    exact List.map_id _
  rw [NameSet.ofList, hEntries, NameMap.ofList_toList]

theorem namesOfDatum?_toDatum (names : NameSet) : namesOfDatum? names.toDatum = some names := by
  have hNames : (names.names.map Datum.text).mapM Datum.asText? = some names.names :=
    mapM_map fun _ _ => rfl
  show ((names.names.map Datum.text).mapM Datum.asText?).bind _ = _
  rw [hNames]
  exact congrArg some (NameSet.ofList_names names)

theorem namedLevelsOfDatum?_map (named : NameMap Level) :
    namedLevelsOfDatum? (.map (named.toList.map fun e => (e.1, .text e.2.label))) = some named := by
  let write (e : String × Level) : String × Datum := (e.1, .text e.2.label)
  let read (e : String × Datum) : Option (String × Level) :=
    (levelOfDatum? e.2).map fun level => (e.1, level)
  have hEntry (e : String × Level) : read (write e) = some e := by
    have hLevel : levelOfDatum? (write e).2 = some e.2 := Level.ofText?_label e.2
    show (levelOfDatum? (write e).2).map _ = _
    rw [hLevel]
    rfl
  show ((named.toList.map write).mapM read).bind _ = _
  rw [mapM_map fun e _ => hEntry e]
  exact congrArg some named.ofList_toList

/-! ## The parts of the document -/

open Datum (fieldOr_without asSwitch?_without asWord?_without asText?_without)

theorem LevelMap.ofDatum?_without (m : LevelMap) (gone : Deletion) :
    LevelMap.ofDatum? (m.toDatum.without gone) = some (m.reset gone) := by
  have hRoot : levelOfDatum? (.text m.root.label) = some m.root := Level.ofText?_label m.root
  rw [LevelMap.ofDatum?, LevelMap.toDatum, fieldOr_without rfl hRoot,
    fieldOr_without rfl (namedLevelsOfDatum?_map m.named)]
  rfl

theorem Report.NameFilter.ofDatum?_without (f : Report.NameFilter) (gone : Deletion) :
    Report.NameFilter.ofDatum? (f.toDatum.without gone) = some (f.reset gone) := by
  rw [NameFilter.ofDatum?, NameFilter.toDatum, fieldOr_without rfl (asSwitch?_without ..),
    fieldOr_without rfl (namesOfDatum?_toDatum f.includes),
    fieldOr_without rfl (namesOfDatum?_toDatum f.excludes)]
  rfl

theorem ReservoirSettings.ofDatum?_without (r : ReservoirSettings) (gone : Deletion) :
    ReservoirSettings.ofDatum? (r.toDatum.without gone) = some (r.reset gone) := by
  have hKind : (Datum.choice r.kind.word).asChoice?.bind ReservoirKind.ofWord? = some r.kind :=
    ReservoirKind.ofWord?_word r.kind
  rw [ReservoirSettings.ofDatum?, ReservoirSettings.toDatum, fieldOr_without rfl hKind,
    fieldOr_without rfl (asWord?_without ..), fieldOr_without rfl (asWord?_without ..)]
  rfl

/-- The fields that all reporters have are read from a record that starts with them. -/
theorem ReporterSettings.ofDatum?_without (usual r : ReporterSettings)
    (own : List (String × Datum)) (gone : Deletion) :
    ReporterSettings.ofDatum? usual ((Datum.record (r.toFields ++ own)).without gone) =
      some (ReporterSettings.reset usual r gone) := by
  rw [ReporterSettings.ofDatum?, ReporterSettings.toFields,
    fieldOr_without rfl (asText?_without ..), fieldOr_without rfl (asSwitch?_without ..),
    fieldOr_without rfl (asWord?_without ..),
    fieldOr_without rfl (r.filter.ofDatum?_without (gone.under "filter"))]
  rfl

theorem LogSettings.ofDatum?_without (r : LogSettings) (gone : Deletion) :
    LogSettings.ofDatum? (r.toDatum.without gone) = some (r.reset gone) := by
  -- the fields of its own come after those that all reporters have
  have hCommon := ReporterSettings.ofDatum?_without LogSettings.usual.toReporterSettings
    r.toReporterSettings [("target", .text r.target), ("format", .choice r.format.word)] gone
  have hFormat : (Datum.choice r.format.word).asChoice?.bind Report.LineFormat.ofWord? =
      some r.format := Report.LineFormat.ofWord?_word r.format
  rw [LogSettings.ofDatum?, LogSettings.toDatum, hCommon,
    fieldOr_without rfl (asText?_without ..), fieldOr_without rfl hFormat]
  rfl

theorem TableSettings.ofDatum?_without (r : TableSettings) (gone : Deletion) :
    TableSettings.ofDatum? (r.toDatum.without gone) = some (r.reset gone) := by
  have hCommon := ReporterSettings.ofDatum?_without TableSettings.usual.toReporterSettings
    r.toReporterSettings [("location", locationDatum r.location)] gone
  have hLocation : locationOfDatum? ((locationDatum r.location).without (gone.under "location")) =
      some r.location := by
    cases r.location <;> rfl
  rw [TableSettings.ofDatum?, TableSettings.toDatum, hCommon, fieldOr_without rfl hLocation]
  rfl

theorem ReportingSettings.ofDatum?_without (r : ReportingSettings) (gone : Deletion) :
    ReportingSettings.ofDatum? (r.toDatum.without gone) = some (r.reset gone) := by
  have hConsole := ReporterSettings.ofDatum?_without ReportingSettings.usual.console r.console []
    (gone.under "console")
  rw [List.append_nil] at hConsole
  rw [ReportingSettings.ofDatum?, ReportingSettings.toDatum, fieldOr_without rfl hConsole,
    fieldOr_without rfl (r.log.ofDatum?_without (gone.under "log")),
    fieldOr_without rfl (r.table.ofDatum?_without (gone.under "csv"))]
  rfl

/-- A document gives back the settings that it was made from, with the defaults in the place of what
was deleted from it. -/
theorem Settings.ofDatum?_without (s : Settings) (gone : Deletion) :
    Settings.ofDatum? (s.toDatum.without gone) = some (s.reset gone) := by
  rw [Settings.ofDatum?, Settings.toDatum, fieldOr_without rfl (asSwitch?_without ..),
    fieldOr_without rfl (s.levels.ofDatum?_without (gone.under "levels")),
    fieldOr_without rfl (s.reservoir.ofDatum?_without (gone.under "reservoir")),
    fieldOr_without rfl (s.reporting.ofDatum?_without (gone.under "reporting"))]
  rfl

/-- A whole document gives back the settings that it was made from. -/
theorem Settings.ofDatum?_toDatum (s : Settings) : Settings.ofDatum? s.toDatum = some s := by
  have hWhole := s.ofDatum?_without .none
  rw [Datum.without_none, reset_none] at hWhole
  exact hWhole

/-! ## The text -/

/-- Settings are read from the text that they are written as, whatever they hold. -/
theorem Settings.ofRon?_toRon (s : Settings) : Settings.ofRon? s.toRon = some s := by
  -- a document may be nested 128 deep, and that of settings takes 10 of these
  have hDocument : Ron.readDatum? Settings.shape s.toRon = some s.toDatum :=
    Ron.readDatum?_render (s.fits 118)
  rw [Settings.ofRon?, hDocument, Option.bind_some, Settings.ofDatum?_toDatum]

end Metering
