import Metering.Change
import Metering.Registry.Basic

/-!
# Metering — what counts

A registered metric counts while the registry is switched on and the level that applies to its
name admits its own. Each change of the switch or of a level is followed by a refresh of what is
kept with the metrics; a removed metric stays as it was.

* `Registry.refreshed` — with all registered metrics brought up to date;
* `Registry.setEnabled`, `Registry.setRoot`, `Registry.setLevel` — the changes, and what there is
  to tell of them.
-/

namespace Metering.Registry

/-- Whether a metric of a level counts under a name, by what is configured. -/
def admits (r : Registry) (name : String) (level : Level) : Bool :=
  r.levels.enables name level r.enabled

/-- The registry with an instrument brought up to date. -/
def refreshOne (r : Registry) (name : String) (id : InstrumentId) : Registry :=
  { r with instruments := r.instruments.modify id fun i =>
      { i with enabled := r.admits name i.level } }

/-- The registry with all registered metrics brought up to date. -/
def refreshed (r : Registry) : Registry :=
  r.records.toList.foldl (fun r e => r.refreshOne e.1 e.2) r

/-- Switches all metrics on or off. There is nothing to tell if they are so already. -/
def setEnabled (r : Registry) (on : Bool) : Registry × Option Change :=
  if r.enabled = on then (r, none)
  else
    let switched : Registry := { r with enabled := on }
    ((switched.tell (.switched on)).refreshed, some (.switch on))

/-- Configures the root level. -/
def setRoot (r : Registry) (level : Level) : Registry × Option Change :=
  let old := r.levels.root
  if old = level then (r, none)
  else
    let changed : Registry := { r with levels := r.levels.setRoot level }
    ((changed.tell (.rootChanged old level)).refreshed, some (.root old level))

/-- The level configured for a registered metric, if any. -/
def level? (r : Registry) (name : String) : Except Fault (Option Level) :=
  if r.has name then .ok (r.levels.level? name) else .error (.notFound name)

/-- Configures the level of a registered metric. -/
def setLevel (r : Registry) (name : String) (level : Level) :
    Registry × Except Fault (Option Change) :=
  if r.has name then
    let old := r.levels.level? name
    if old = some level then (r, .ok none)
    else
      let changed : Registry := { r with levels := r.levels.set name level }
      ((changed.tell (.levelChanged name old level)).refreshed, .ok (some (.metric name old level)))
  else (r, .error (.notFound name))

end Metering.Registry
