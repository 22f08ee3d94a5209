import Metering.Clock
import Metering.Sample
import Metering.Settle
import Metering.Statistic.MovingAverage

/-!
# Metering — meters

A meter counts events and keeps averages of their rate. Intervals are not folded into the
averages when they end but when the meter is used next.

* `Meter` — the state, over whatever the intervals are folded into;
* `Meter.tick` — folds the intervals that have ended;
* `Meter.mark`, `Meter.rates` — recording and reading.
-/

namespace Metering

/-- The length of an interval. -/
def tickInterval : Duration := 5 * nanosPerSecond

/-- The number of intervals that one tick can fold, which is kept in 32 bits. -/
def tickLimit : Nat := UInt32.size

/-- A count of events, and what the counts of past intervals have been folded into. -/
structure Meter (A : Type) where
  start : Instant
  /-- The start of the interval that the pending events belong to. -/
  lastTick : Instant
  count : UInt64
  /-- The events that have not been folded. -/
  pending : UInt64
  folded : A

namespace Meter

variable {A : Type} [Accumulator A]

/-- A meter of no events. -/
def new (now : Instant) : Meter A := ⟨now, now, 0, 0, Accumulator.start⟩

/-- One interval with events and then intervals without, `ticks` in all. -/
def foldTicks [DecidableEq A] (a : A) (count : UInt64) : Nat → A
  | 0 => a
  | ticks + 1 => settle (fun a => Accumulator.fold a 0) ticks (Accumulator.fold a count)

/-- Folds the intervals that have ended: the pending events belong to the first of them. -/
def tick [DecidableEq A] (m : Meter A) (now : Instant) : Meter A :=
  let age := since m.lastTick now
  if age < tickInterval then m
  else
    let ticks := age / tickInterval % tickLimit
    { m with
      lastTick := m.lastTick + tickInterval * ticks
      pending := 0
      folded := foldTicks m.folded m.pending ticks }

/-- Records events. -/
def mark [DecidableEq A] (m : Meter A) (now : Instant) (n : UInt64) : Meter A :=
  let m := m.tick now
  { m with count := m.count + n, pending := m.pending + n }

/-- The events per second since the start; zero if there were none or no time has passed. -/
def meanRate (m : Meter A) (now : Instant) : Float :=
  if m.count = 0 then 0
  else
    let elapsed := Duration.seconds (since m.start now)
    if elapsed ≤ 0 then 0 else m.count.toFloat / elapsed

/-- Reads the four rates. -/
def rates (m : Meter (Averages Float)) (now : Instant) : Meter (Averages Float) × Rates :=
  let mean := m.meanRate now
  let m := m.tick now
  (m, ⟨mean, m.folded.one.rate, m.folded.five.rate, m.folded.fifteen.rate⟩)

end Meter

end Metering
