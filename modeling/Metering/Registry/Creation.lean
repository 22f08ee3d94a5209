import Metering.Failure
import Metering.Registry.Basic

/-!
# Metering — making metrics

Whoever asks for a metric gets the one that is registered, or a new one. A metric that is there
must be of the kind and level that is asked for.

* `Registry.obtain` — the metric under a plain name;
* `Registry.group` — the metrics behind a name with markers, each at a level of its own;
* `Registry.metric`, `Registry.gauge`, `Registry.cachedGauge` — a handle for one who asks.
-/

namespace Metering.Registry

/-! ## Plain names -/

/-- The statistic of a metric that has recorded nothing; none if there is no room for it. -/
def blank (r : Registry) (now : Instant) : Measure → Option Statistic
  | .counter => some (.counter 0)
  | .meter => some (.meter (.new now))
  | .histogram => if r.window.fits then some (.histogram (.new r.window)) else none
  | .timer => if r.window.fits then some (.timer (.new now r.window)) else none

/-- Makes a metric under a name that is free. -/
def make (r : Registry) (name : String) (level : Level) (initial : Statistic) :
    Registry × InstrumentId :=
  let enabled := r.levels.enables name level r.enabled
  let (statistics, place) := r.statistics.add initial
  let id := r.instruments.length
  let made : Registry := { r with
    instruments := r.instruments ++ [⟨name, initial.kind, level, enabled, place⟩]
    records := r.records.insert name id
    store := r.store.insert name place
    statistics := statistics }
  (made.tell (.created initial.kind name level enabled), id)

/-- Checks an instrument that is there against what is asked for, first its kind. -/
def agree (name : String) (kind : Kind) (level : Level) (i : Instrument) : Except Fault Unit :=
  if i.kind ≠ kind then .error (.kindMismatch name kind i.kind)
  else if i.level ≠ level then .error (.levelMismatch name i.level level)
  else .ok ()

/-- The metric under a plain name, made if the name is free and there is room for it. -/
def obtain (r : Registry) (name : String) (kind : Kind) (level : Level)
    (initial : Option Statistic) : Registry × Except Failure InstrumentId :=
  if Name.isMarked name then
    (r, .error (.refused (.invalidArgument (.markedWithoutAncestors name))))
  else
    match r.records.get? name with
    | some id =>
      match (r.instrument? id).elim (.error (.notFound name)) (agree name kind level) with
      | .ok () => (r, .ok id)
      | .error fault => (r, .error (.refused fault))
    | none =>
      match initial with
      | some statistic =>
        let (r, id) := r.make name level statistic
        (r, .ok id)
      | none => (r, .error .brokenOff)

/-! ## Names with markers -/

/-- The metrics under several plain names, up to the first that cannot be had. Those that were
made before stay. -/
def obtainAll (r : Registry) (now : Instant) (measure : Measure) :
    List (String × Level) → Registry × Except Failure (List InstrumentId)
  | [] => (r, .ok [])
  | (name, level) :: rest =>
    match r.obtain name measure.kind level (r.blank now measure) with
    | (r, .error failure) => (r, .error failure)
    | (r, .ok id) =>
      match r.obtainAll now measure rest with
      | (r, .error failure) => (r, .error failure)
      | (r, .ok ids) => (r, .ok (id :: ids))

/-- The group behind a name with markers, with the levels of the metric itself and of its
ancestors. A group that is there is taken without regard to the levels. -/
def group (r : Registry) (now : Instant) (measure : Measure) (name : String)
    (levels : List Level) : Registry × Except Failure Handle :=
  match Name.hierarchy name with
  | .error fault => (r, .error (.refused fault))
  | .ok members =>
    if members.length ≠ levels.length then
      (r, .error (.refused (.invalidArgument (.levelCount name members.length levels.length))))
    else
      match r.groups.get? name with
      | some g =>
        if g.measure = measure then (r, .ok ⟨measure.kind, g.targets⟩)
        else (r, .error (.refused (.kindMismatch name measure.kind g.measure.kind)))
      | none =>
        match r.obtainAll now measure (members.zip levels) with
        | (r, .error failure) => (r, .error failure)
        | (r, .ok targets) =>
          let made : Registry :=
            { r with groups := r.groups.insert name ⟨measure, members, targets⟩ }
          (made.tell (.grouped measure.kind name members), .ok ⟨measure.kind, targets⟩)

/-! ## Handles -/

/-- The handle of a single metric. -/
def single (kind : Kind) : Registry × Except Failure InstrumentId → Registry × Except Failure Handle
  | (r, .ok id) => (r, .ok ⟨kind, [id]⟩)
  | (r, .error failure) => (r, .error failure)

/-- The metric under a name: a plain one without ancestors, a group with levels for them. -/
def metric (r : Registry) (now : Instant) (measure : Measure) (name : String) (level : Level)
    (ancestors : List Level) : Registry × Except Failure Handle :=
  if ancestors.isEmpty then
    single measure.kind (r.obtain name measure.kind level (r.blank now measure))
  else r.group now measure name (level :: ancestors)

/-- The gauge under a plain name. If it is there, it keeps the supplier it has. -/
def gauge (r : Registry) (name : String) (level : Level) (supplier : Supplier) (source : Nat) :
    Registry × Except Failure Handle :=
  single .gauge (r.obtain name .gauge level (some (.gauge supplier source)))

/-- The cached gauge under a plain name. If it is there, it keeps what it has. -/
def cachedGauge (r : Registry) (name : String) (level : Level) (timeout : Duration)
    (supplier : Supplier) (source : Nat) : Registry × Except Failure Handle :=
  single .gauge
    (r.obtain name .cachedGauge level (some (.cachedGauge (.new timeout) supplier source)))

end Metering.Registry
