import Metering.Clock
import Metering.Statistic.Snapshot

/-!
# Metering — reservoirs and histograms

A distribution is described by some of the values that were recorded: the last ones, up to a
number, or those of the last time.

* `Window` — which values are kept;
* `Reservoir` — the kept values with the instants of their recording;
* `Reservoir.kept` — all of them in a row, the latest first;
* `Reservoir.look` — what is no longer in the window leaves, and the rest is shown;
* `Histogram` — a reservoir and the count of all values ever recorded.
-/

namespace Metering

/-- Which values are kept. -/
inductive Window where
  /-- The last values, at most so many, and at least one. -/
  | values (size : Nat)
  /-- The values of the last time, those of exactly its length ago included. -/
  | time (length : Duration)
  deriving DecidableEq

/-- The number of values for which room can be set aside: eight bytes each, and less than `2 ^ 63`
bytes in all. -/
def Window.maxRoom : Nat := (1 <<< 60) - 1

/-- The window of the last values, at least one. -/
def Window.last (size : Nat) : Window := .values (max size 1)

/-- Whether room can be set aside for the window. -/
def Window.fits : Window → Bool
  | values size => size ≤ maxRoom
  | time _ => true

/-- A recorded value. -/
structure Recorded where
  instant : Instant
  value : Int64
  deriving DecidableEq

/-- The kept values, in two parts: the older ones with the earliest first, and those recorded since
with the latest first. -/
structure Reservoir where
  window : Window
  older : List Recorded
  newer : List Recorded
  size : Nat

namespace Reservoir

/-- The reservoir that has kept nothing yet. -/
def empty (window : Window) : Reservoir := ⟨window, [], [], 0⟩

/-- The kept values, the latest first. -/
def kept (r : Reservoir) : List Recorded := r.newer ++ r.older.reverse

/-- The reservoir whose values are all in the older part, if that part was used up. -/
def turned (r : Reservoir) : Reservoir :=
  if r.older.isEmpty then { r with older := r.newer.reverse, newer := [] } else r

/-- The reservoir without the earliest value. -/
def dropEarliest (r : Reservoir) : Reservoir :=
  let r := r.turned
  { r with older := r.older.tail, size := r.size - 1 }

/-- Whether the earliest value is no longer in the window at an instant. -/
def isOverfull (r : Reservoir) (now : Instant) : Bool :=
  match r.window with
  | .values size => size < r.size
  | .time length => r.older.head?.any fun earliest => length < since earliest.instant now

/-- The reservoir without the values that are no longer in the window. There are at most as many
as there are values. -/
def trimmed (now : Instant) : Nat → Reservoir → Reservoir
  | 0, r => r
  | fuel + 1, r =>
    let r := r.turned
    if r.isOverfull now then trimmed now fuel r.dropEarliest else r

/-- The reservoir after a value was recorded. -/
def record (r : Reservoir) (now : Instant) (value : Int64) : Reservoir :=
  trimmed now (r.size + 1) { r with newer := ⟨now, value⟩ :: r.newer, size := r.size + 1 }

/-- The recorded values that a window keeps at an instant, of some with the latest first. -/
def retained (window : Window) (now : Instant) (kept : List Recorded) : List Recorded :=
  match window with
  | .values size => kept.take size
  | .time length => kept.takeWhile fun r => since r.instant now ≤ length

/-- The snapshot of the values that are kept at an instant. -/
def snapshot (r : Reservoir) (now : Instant) : Snapshot :=
  .ofList ((retained r.window now r.kept).map Recorded.value)

/-- The reservoir without the values that are no longer in the window at an instant, and the
snapshot of all those that are left. -/
def look (r : Reservoir) (now : Instant) : Reservoir × Snapshot :=
  let r := trimmed now r.size r
  (r, .ofList (r.kept.map Recorded.value))

end Reservoir

/-! ## Histograms -/

/-- A count of values and a reservoir of some of them. -/
structure Histogram where
  count : UInt64
  reservoir : Reservoir

namespace Histogram

/-- The histogram of no values. -/
def new (window : Window) : Histogram := ⟨0, .empty window⟩

/-- The histogram after a value was recorded. -/
def update (h : Histogram) (now : Instant) (value : Int64) : Histogram :=
  ⟨h.count + 1, h.reservoir.record now value⟩

/-- The snapshot of the values that are kept at an instant. -/
def snapshot (h : Histogram) (now : Instant) : Snapshot := h.reservoir.snapshot now

/-- The histogram after a snapshot was taken, and the snapshot. -/
def look (h : Histogram) (now : Instant) : Histogram × Snapshot :=
  let (reservoir, shown) := h.reservoir.look now
  (⟨h.count, reservoir⟩, shown)

end Histogram

end Metering
