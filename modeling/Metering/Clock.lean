/-!
# Metering — time

Instants and durations are counted in nanoseconds. Instants never go back; their zero has no
meaning.

* `Instant`, `Duration` and `since` — the distance of two instants;
* `Duration.seconds` — a duration as a real number;
* `Stopwatch` — the time since an instant that can be set again.
-/

namespace Metering

/-- A point of time, in nanoseconds. -/
abbrev Instant := Nat

/-- A length of time, in nanoseconds. -/
abbrev Duration := Nat

/-- The nanoseconds of a second. -/
def nanosPerSecond : Nat := 1000000000

/-- The duration of whole seconds and nanoseconds. -/
def Duration.of (seconds nanos : Nat) : Duration := seconds * nanosPerSecond + nanos

/-- The time from an earlier instant to a later one. -/
def since (earlier later : Instant) : Duration := later - earlier

/-- A duration in seconds: the whole seconds, and the rest divided by a billion. -/
def Duration.seconds (d : Duration) : Float :=
  (UInt64.ofNat (d / nanosPerSecond)).toFloat +
    (UInt64.ofNat (d % nanosPerSecond)).toFloat / 1000000000.0

/-! ## Stopwatches -/

/-- Measures the time since it was started. -/
structure Stopwatch where
  start : Instant

/-- The time since the start. -/
def Stopwatch.elapsed (w : Stopwatch) (now : Instant) : Duration := since w.start now

/-- The stopwatch started again, with the time since the last start. -/
def Stopwatch.restart (w : Stopwatch) (now : Instant) : Stopwatch × Duration :=
  (⟨now⟩, w.elapsed now)

end Metering
