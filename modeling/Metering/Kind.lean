/-!
# Metering — kinds of metrics

* `Kind` — what a metric measures: a count, a rate, a distribution of values, of durations, or
  a value asked for on demand, each time or within a time-out;
* `Measure` — the kinds of metrics that record what they are told.
-/

namespace Metering

/-- The kind of a metric. -/
inductive Kind where
  | counter
  | meter
  | histogram
  | timer
  | gauge
  | cachedGauge
  deriving DecidableEq

/-- The kind as it is named in messages. -/
def Kind.label : Kind → String
  | counter => "counter"
  | meter => "meter"
  | histogram => "histogram"
  | timer => "timer"
  | gauge => "gauge"
  | cachedGauge => "cached gauge"

/-- Whether a metric of one kind will do where one of another is asked for: a gauge may be cached
or not. -/
def Kind.servesAs (found wanted : Kind) : Bool :=
  found = wanted || found = cachedGauge && wanted = gauge

/-- The kinds of metrics that record what they are told. -/
inductive Measure where
  | counter
  | meter
  | histogram
  | timer
  deriving DecidableEq

/-- The kind of metric that takes a measure. -/
def Measure.kind : Measure → Kind
  | counter => .counter
  | meter => .meter
  | histogram => .histogram
  | timer => .timer

end Metering
