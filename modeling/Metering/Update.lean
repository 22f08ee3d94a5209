import Metering.Statistic

/-!
# Metering — updates

An update is what a metric is told: to count up or down, that events have happened, a value, or
how long something took.

* `Update` — the updates;
* `Update.measure` — what an update is for;
* `Statistic.count` — how much a statistic has recorded;
* `Statistic.updated` — a statistic after an update of its kind.
-/

namespace Metering

/-- What a metric is told. -/
inductive Update where
  | add (n : Int64)
  | subtract (n : Int64)
  | mark (n : UInt64)
  | value (v : Int64)
  | duration (d : Duration)

/-- The measure that an update is for. -/
def Update.measure : Update → Measure
  | add _ | subtract _ => .counter
  | mark _ => .meter
  | value _ => .histogram
  | duration _ => .timer

/-- How many events or values a statistic has recorded, or the count of a counter; zero for a
gauge. -/
def Statistic.count : Statistic → Int
  | counter count => count.toInt
  | meter m => m.count.toNat
  | histogram h => h.count.toNat
  | timer t => t.count.toNat
  | gauge .. | cachedGauge .. => 0

/-- The statistic after an update. An update that is not for its kind changes nothing. -/
def Statistic.updated (s : Statistic) (now : Instant) (u : Update) : Statistic :=
  match s, u with
  | counter count, .add n => counter (count + n)
  | counter count, .subtract n => counter (count - n)
  | meter m, .mark n => meter (m.mark now n)
  | histogram h, .value v => histogram (h.update now v)
  | timer t, .duration d => timer (t.update now d)
  | s, _ => s

theorem Statistic.kind_updated (s : Statistic) (now : Instant) (u : Update) :
    (s.updated now u).kind = s.kind := by
  cases s <;> cases u <;> rfl

end Metering
