import Metering.Fanout
import Metering.Registry.Basic
import Metering.Update

/-!
# Metering — recording and reading

* `Registry.update` — tells an update to all instruments of a handle;
* `Registry.statistic?` — what the first of them has recorded;
* `Registry.samples` — what reporters read.
-/

namespace Metering.Registry

/-- Tells an update to an instrument, which takes it only while it counts. -/
def record (now : Instant) (u : Update) (r : Registry) (id : InstrumentId) : Registry :=
  match r.instrument? id with
  | some i =>
    if i.enabled then
      match r.statistics.get? i.statistic with
      | some s =>
        { r with statistics := r.statistics.set i.statistic (s.updated now u) }
      | none => r
    else r
  | none => r

/-- Tells an update to all instruments of a handle. -/
def update (r : Registry) (now : Instant) (h : Handle) (u : Update) : Registry :=
  (fanOut (fun r id => some (r.record now u id)) r h.targets).1

/-- Where the first instrument of a handle records. -/
def statId? (r : Registry) (h : Handle) : Option StatId :=
  (h.targets.head?.bind r.instrument?).map Instrument.statistic

/-- What the first instrument of a handle has recorded. -/
def statistic? (r : Registry) (h : Handle) : Option Statistic :=
  (r.statId? h).bind r.statistics.get?

/-- What the first instrument of a handle shows. Nothing is shown if a supplier breaks off. -/
def reading (r : Registry) (now : Instant) (h : Handle) : Registry × Option Reading :=
  match r.statId? h with
  | some id =>
    let (statistics, shown) := r.statistics.read now id
    ({ r with statistics := statistics }, shown)
  | none => (r, none)

/-- The samples of the stored statistics whose names pass a test. There are none if a supplier
breaks off. -/
def samples (r : Registry) (now : Instant) (accepts : String → Bool) :
    Registry × Option (List Sample) :=
  let (statistics, samples) := r.store.samples r.statistics now accepts
  ({ r with statistics := statistics }, samples)

/-- One more source of gauge values, which was not asked yet. -/
def addSource (r : Registry) : Registry × Nat :=
  let (statistics, source) := r.statistics.addSource
  ({ r with statistics := statistics }, source)

end Metering.Registry
