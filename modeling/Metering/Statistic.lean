import Metering.Kind
import Metering.Statistic.Gauge
import Metering.Statistic.Timer

/-!
# Metering — statistics

A statistic is what a metric of some kind has recorded. Several parts of a program may hold the
same statistic, so statistics are kept in a table and known by their place in it; a place is
never given to another statistic.

* `Statistic` — a statistic of each kind;
* `Statistics` — the table, and how often each source of gauge values was asked;
* `Statistics.read` — what a statistic shows, which may fail because a supplier breaks off.
-/

namespace Metering

/-- The events, values and durations recorded under a metric. Gauges record nothing, but hold
their supplier and the source whose questions are counted. -/
inductive Statistic where
  | counter (count : Int64)
  | meter (m : Meter (Averages Float))
  | histogram (h : Histogram)
  | timer (t : Timer (Averages Float))
  | gauge (supplier : Supplier) (source : Nat)
  | cachedGauge (g : CachedGauge) (supplier : Supplier) (source : Nat)

/-- The kind of metric that a statistic belongs to. -/
def Statistic.kind : Statistic → Kind
  | counter .. => .counter
  | meter .. => .meter
  | histogram .. => .histogram
  | timer .. => .timer
  | gauge .. => .gauge
  | cachedGauge .. => .cachedGauge

/-! ## The table -/

/-- The place of a statistic in the table. -/
abbrev StatId := Nat

/-- All statistics by their places, and how often each source was asked. -/
structure Statistics where
  table : List Statistic
  asked : List Nat

namespace Statistics

/-- No statistics. -/
def empty : Statistics := ⟨[], []⟩

/-- The statistic at a place. -/
def get? (s : Statistics) (id : StatId) : Option Statistic := s.table[id]?

/-- The table with one more statistic, and its place. -/
def add (s : Statistics) (statistic : Statistic) : Statistics × StatId :=
  ({ s with table := s.table ++ [statistic] }, s.table.length)

/-- The table with the statistic at a place replaced. -/
def set (s : Statistics) (id : StatId) (statistic : Statistic) : Statistics :=
  { s with table := s.table.set id statistic }

/-- The table with one more source, and the source. -/
def addSource (s : Statistics) : Statistics × Nat :=
  ({ s with asked := s.asked ++ [0] }, s.asked.length)

/-- How often a source was asked. -/
def timesAsked (s : Statistics) (source : Nat) : Nat := s.asked.getD source 0

/-- Asks a source once more. -/
def ask (s : Statistics) (supplier : Supplier) (source : Nat) : Statistics × Option Float :=
  let k := s.timesAsked source
  ({ s with asked := s.asked.set source (k + 1) }, supplier.answer k)

/-- What the statistic at a place shows. Nothing is shown if there is none, or if its supplier
breaks off. -/
def read (s : Statistics) (now : Instant) (id : StatId) : Statistics × Option Reading :=
  match s.get? id with
  | none => (s, none)
  | some (.counter count) => (s, some (.counter count))
  | some (.meter m) =>
    let (m, rates) := m.rates now
    (s.set id (.meter m), some (.meter m.count rates))
  | some (.histogram h) => (s, some (.histogram h.count (h.snapshot now).distribution))
  | some (.timer t) =>
    let (meter, rates) := t.meter.rates now
    let t := { t with meter := meter }
    (s.set id (.timer t), some (.timer t.count rates (t.snapshot now).distribution))
  | some (.gauge supplier source) =>
    let (s, answer) := s.ask supplier source
    (s, answer.map .gauge)
  | some (.cachedGauge g supplier source) =>
    match g.fresh? now with
    | some value => (s, some (.gauge value))
    | none =>
      let (s, answer) := s.ask supplier source
      match answer with
      | some value => (s.set id (.cachedGauge (g.refreshed now value) supplier source),
          some (.gauge value))
      | none => (s, none)

/-- The samples of named statistics in their order. A supplier that breaks off ends the process;
what was changed until then stays changed. -/
def readAll (s : Statistics) (now : Instant) :
    List (String × StatId) → Statistics × Option (List Sample)
  | [] => (s, some [])
  | (name, id) :: rest =>
    match s.read now id with
    | (s, none) => (s, none)
    | (s, some reading) =>
      let (s, samples) := s.readAll now rest
      (s, samples.map (⟨name, reading⟩ :: ·))

end Statistics

end Metering
