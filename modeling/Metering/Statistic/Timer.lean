import Metering.Statistic.Meter
import Metering.Statistic.Reservoir

/-!
# Metering — timers

A timer is a meter of events and a histogram of how long they took, in nanoseconds.

* `Timer.update` — records one event in both parts;
* `nanosOf` — a duration as a recorded value.
-/

namespace Metering

/-- A duration as a recorded value; one that is too long counts as the longest. -/
def nanosOf (d : Duration) : Int64 := Int64.ofNat (min d (UInt64.size / 2 - 1))

/-- A meter of events and a histogram of their durations. -/
structure Timer (A : Type) where
  meter : Meter A
  histogram : Histogram

namespace Timer

variable {A : Type} [Accumulator A]

/-- A timer of no events. -/
def new (now : Instant) (window : Window) : Timer A := ⟨.new now, .new window⟩

/-- Records one event. -/
def update [DecidableEq A] (t : Timer A) (now : Instant) (d : Duration) : Timer A :=
  ⟨t.meter.mark now 1, t.histogram.update now (nanosOf d)⟩

/-- How many events were recorded. -/
def count (t : Timer A) : UInt64 := t.histogram.count

/-- The snapshot of the durations that are kept at an instant. -/
def snapshot (t : Timer A) (now : Instant) : Snapshot := t.histogram.snapshot now

end Timer

end Metering
