import Metering.LevelMap
import Metering.Registry.Notice
import Metering.Store

/-!
# Metering — the registry

A registry makes metrics, knows them by their plain names, and decides which of them count. A
name with markers stands for a group: the metric itself and its counted ancestors.

* `Instrument` — a metric; whether it counts is kept with it;
* `Group` — the metrics behind a name with markers;
* `Handle` — what one who updates or reads a metric holds;
* `Registry` — the instruments, the names, and what is configured;
* `counts?`, `size`, `countingSize` — which metrics are registered, and which count.
-/

namespace Metering

/-- The place of an instrument among all that a registry has made. A place is never given to
another instrument. -/
abbrev InstrumentId := Nat

/-- A metric with the level it was made at, whether it counts, and where it records. -/
structure Instrument where
  name : String
  kind : Kind
  level : Level
  enabled : Bool
  statistic : StatId
  deriving DecidableEq

/-- The metrics that a name with markers stands for, itself first, by names and instruments. -/
structure Group where
  measure : Measure
  members : List String
  targets : List InstrumentId
  deriving DecidableEq

/-- What the holder of a metric has: the instruments that an update reaches, of which the first
is read. A handle serves on when its metric is removed. -/
structure Handle where
  kind : Kind
  targets : List InstrumentId
  deriving DecidableEq

/-- The instruments that were ever made, those registered by their names, the groups by their
names with markers, and what reporters read; whether anything counts at all, the configured
levels, the window of new reservoirs, and the notices that no log has taken yet. -/
structure Registry where
  enabled : Bool
  levels : LevelMap
  window : Window
  instruments : List Instrument
  records : NameMap InstrumentId
  groups : NameMap Group
  store : Store
  statistics : Statistics
  trail : List Notice

namespace Registry

/-- A registry without metrics. -/
def new (levels : LevelMap) (window : Window) (enabled : Bool) : Registry where
  enabled := enabled
  levels := levels
  window := window
  instruments := []
  records := .empty
  groups := .empty
  store := .empty
  statistics := .empty
  trail := [.opened enabled levels.root]

/-- The registry of one who configures nothing. -/
def usual : Registry := new default (.values 1028) true

/-- The registry with one more notice. -/
def tell (r : Registry) (n : Notice) : Registry := { r with trail := r.trail ++ [n] }

/-! ## Looking up -/

/-- The instrument at a place. -/
def instrument? (r : Registry) (id : InstrumentId) : Option Instrument := r.instruments[id]?

/-- The instrument that is registered under a plain name. -/
def record? (r : Registry) (name : String) : Option Instrument :=
  (r.records.get? name).bind r.instrument?

/-- Whether a metric is registered under a plain name. -/
def has (r : Registry) (name : String) : Bool := r.records.contains name

/-- Whether the metric of a plain name is registered and counts. -/
def counts (r : Registry) (name : String) : Bool :=
  match r.record? name with
  | some i => i.enabled
  | none => false

/-- Whether the metric of a plain name counts, if it is registered. -/
def counts? (r : Registry) (name : String) : Except Fault Bool :=
  match r.record? name with
  | some i => .ok i.enabled
  | none => .error (.notFound name)

/-- The handle of what is registered under a name, plain or with markers, if it is of the kind
that is wanted. -/
def find? (r : Registry) (wanted : Kind) (name : String) : Except Fault Handle :=
  match r.records.get? name with
  | some id =>
    match r.instrument? id with
    | some i =>
      if i.kind.servesAs wanted then .ok ⟨wanted, [id]⟩
      else .error (.kindMismatch name wanted i.kind)
    | none => .error (.notFound name)
  | none =>
    match r.groups.get? name with
    | some g =>
      if g.measure.kind = wanted then .ok ⟨wanted, g.targets⟩
      else .error (.kindMismatch name wanted g.measure.kind)
    | none => .error (.notFound name)

/-! ## Counting -/

/-- How many metrics are registered. -/
def size (r : Registry) : Nat := r.records.size

/-- How many of the registered metrics count. -/
def countingSize (r : Registry) : Nat := r.records.names.countP r.counts

/-- How many groups there are. -/
def groupCount (r : Registry) : Nat := r.groups.size

/-- What a listing of values shows of a registry. -/
def shown (r : Registry) : String :=
  s!"MetricsRegistry \x7b enabled: {r.enabled}, root_level: {r.levels.root.title}, metrics: " ++
    s!"{r.size}, collections: {r.groupCount}, .. \x7d"

end Registry

end Metering
