import Metering.Statistic.Snapshot

/-!
# Metering — samples

A sample is what a metric shows at one instant, under the metric's name.

* `Rates` — the four event rates of a meter or timer;
* `Reading` — the figures that a metric of each kind shows;
* `Sample` — a reading under a name.
-/

namespace Metering

/-- Events per second: since the start, and weighted over one, five and fifteen minutes. -/
structure Rates where
  mean : Float
  one : Float
  five : Float
  fifteen : Float

/-- The four rates in the order in which they are written. -/
def Rates.figures (r : Rates) : List Float := [r.mean, r.one, r.five, r.fifteen]

/-- What a metric shows. Both kinds of gauges show a value. -/
inductive Reading where
  | counter (count : Int64)
  | meter (count : UInt64) (rates : Rates)
  | histogram (count : UInt64) (spread : Distribution)
  | timer (count : UInt64) (rates : Rates) (spread : Distribution)
  | gauge (value : Float)

/-- The reading's kind as it is named in reports. -/
def Reading.label : Reading → String
  | counter .. => "counter"
  | meter .. => "meter"
  | histogram .. => "histogram"
  | timer .. => "timer"
  | gauge .. => "gauge"

/-- What the metric of a name shows. -/
structure Sample where
  name : String
  reading : Reading

end Metering
