import Metering.Host
import Metering.Kind
import Metering.Level
import Metering.Text.Quoted

/-!
# Metering — the registry's notices

* `Notice` — what a registry tells of its own doings;
* `Notice.severity`, `Notice.message` — how a notice stands in the log.
-/

namespace Metering

/-- What a registry tells of its own doings. -/
inductive Notice where
  | opened (enabled : Bool) (root : Level)
  | created (kind : Kind) (name : String) (level : Level) (enabled : Bool)
  | grouped (kind : Kind) (name : String) (members : List String)
  | removed (name : String)
  | ungrouped (name : String)
  | switched (on : Bool)
  | rootChanged (old new : Level)
  | levelChanged (name : String) (old : Option Level) (new : Level)
  deriving DecidableEq

namespace Notice

/-- How important a notice is: what concerns all metrics is of more weight. -/
def severity : Notice → Severity
  | opened .. | switched .. => .info
  | created .. | grouped .. | removed .. | ungrouped .. | rootChanged .. | levelChanged .. => .debug

/-- A level that may be missing, as a listing of values shows it. -/
def levelShown : Option Level → String
  | some level => s!"Some({level.title})"
  | none => "None"

/-- The notice in words. -/
def message : Notice → String
  | opened enabled root =>
    s!"Metrics registry created (enabled: {enabled}, root level: {root.label})."
  | created kind name level enabled =>
    s!"Created {kind.label} '{name}' (level {level.label}, enabled {enabled})."
  | grouped kind name members =>
    s!"Created {kind.label} collection '{name}' over {Text.listing members}."
  | removed name => s!"Removed metric '{name}'."
  | ungrouped name => s!"Removed collection '{name}'."
  | switched on => if on then "Metrics enabled." else "Metrics disabled."
  | rootChanged old new => s!"Root level changed from {old.label} to {new.label}."
  | levelChanged name old new =>
    s!"Level of '{name}' changed from {levelShown old} to {new.label}."

/-- The notice as an entry of the log. -/
def entry (n : Notice) : LogEntry := .event n.severity n.message

end Notice

end Metering
