import Metering.Json.Printer
import Metering.Json.Reader
import Metering.Ron.Printer
import Metering.Ron.Reader
import Metering.Settings

/-!
# Metering — settings as text

Settings are written in RON or in JSON, and switches of the environment may take the place of two
of them.

* `Settings.ofRon?`, `Settings.ofJson?` and `Settings.toRon`, `Settings.toJson` — the two
  notations;
* `Settings.override` — the settings after the switches of the environment.
-/

namespace Metering.Settings

/-- The settings of a text in RON. -/
def ofRon? (text : String) : Option Settings := (Ron.readDatum? shape text).bind ofDatum?

/-- The settings of a text in JSON. -/
def ofJson? (text : String) : Option Settings := (Json.readDatum? shape text).bind ofDatum?

/-- The settings as text in RON. -/
def toRon (s : Settings) : String := String.ofList (Ron.render 0 s.toDatum)

/-- The settings as text in JSON, without any blanks. -/
def toJson (s : Settings) : String := String.ofList (Json.ofDatum s.toDatum).render

/-! ## The environment -/

/-- The switch that says whether metrics count. -/
def enabledKey : String := "TALLY_METRICS_ENABLED"

/-- The switch that says what the root level is. -/
def rootLevelKey : String := "TALLY_METRICS_ROOT_LEVEL"

/-- Reads `true` or `false`, without regard to blanks at the ends and letter case. -/
def readSwitch (value : String) : Except Fault Bool :=
  let word := Text.trimmed value.toList
  if Text.sameLetters word "true".toList then .ok true
  else if Text.sameLetters word "false".toList then .ok false
  else .error (.invalidArgument (.switchValue value))

/-- A place of the settings that a switch of the environment sets. -/
inductive Override where
  | enabled (on : Bool)
  | rootLevel (level : Level)

/-- The settings after an override. -/
def apply (s : Settings) : Override → Settings
  | .enabled on => { s with enabled := on }
  | .rootLevel level => { s with levels := s.levels.setRoot level }

/-- What is said of an override. -/
def Override.message : Override → String
  | enabled on => s!"Metrics enabled overridden to {on}."
  | rootLevel level => s!"Root level overridden to {level.label}."

/-- The settings after the switches of the environment, with the overrides that were made in
their order. A switch that cannot be read ends the process; what was set before it stays set. -/
def override (s : Settings) (environment : String → Option String) :
    Settings × List Override × Option Fault :=
  let first : Except Fault (List Override) :=
    match environment enabledKey with
    | some value => (readSwitch value).map fun on => [.enabled on]
    | none => .ok []
  match first with
  | .error fault => (s, [], some fault)
  | .ok done =>
    let s := done.foldl apply s
    match environment rootLevelKey with
    | none => (s, done, none)
    | some value =>
      match Level.read value with
      | .ok level => (s.apply (.rootLevel level), done ++ [.rootLevel level], none)
      | .error fault => (s, done, some fault)

end Metering.Settings
