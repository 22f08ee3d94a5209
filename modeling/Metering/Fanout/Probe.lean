import Metering.Fanout
import Metering.Update

/-!
# Metering — probes

A probe stands in for a metric where the fan-out itself is watched: it writes down each update
that reaches it, in a book shared with the other probes, and may be broken.

* `Mutation` — the ways to tell a metric something;
* `Bench` — probes in the order of a fan-out, and their book;
* `Bench.tell`, `Bench.carryOut` — tells an update to all of them;
* `Bench.count`, `Bench.rate`, `Bench.kept` — what the first probe shows.
-/

namespace Metering

/-- The ways to tell a metric something. -/
inductive Mutation where
  | told (u : Update)
  /-- Counts up by one. -/
  | up
  /-- Counts down by one. -/
  | down
  /-- One event has happened. -/
  | event
  /-- Something took the time for which a stopwatch has run at an instant. -/
  | timed (w : Stopwatch) (stop : Instant)

/-- The update that a mutation comes to. -/
def Mutation.update : Mutation → Update
  | told u => u
  | up => .add 1
  | down => .subtract 1
  | event => .mark 1
  | timed w stop => .duration (w.elapsed stop)

/-- Probes by their counts, those that are broken, and the updates in the order of arrival. -/
structure Bench where
  counts : List Int
  broken : List Nat
  book : List (Nat × Update)

/-- How an update moves the count of a probe. -/
def Update.direction : Update → Int
  | subtract _ => -1
  | add _ | mark _ | value _ | duration _ => 1

namespace Bench

/-- So many probes, of which some may be broken. -/
def new (size : Nat) (broken : List Nat) : Bench := ⟨List.replicate size 0, broken, []⟩

/-- Tells an update to one probe, unless it is broken. -/
def tellOne (u : Update) (b : Bench) (i : Nat) : Option Bench :=
  if i ∈ b.broken then none
  else some { b with
    counts := b.counts.modify i (· + u.direction)
    book := b.book ++ [(i, u)] }

/-- Tells an update to all probes, the first of which is the metric itself. -/
def tell (b : Bench) (u : Update) : Bench × Bool :=
  fanOut (tellOne u) b (List.range b.counts.length)

/-- Carries out a mutation on all probes. -/
def carryOut (b : Bench) (m : Mutation) : Bench × Bool := b.tell m.update

/-- The count of the first probe. -/
def count (b : Bench) : Int := b.counts.headD 0

/-- What the first probe shows as its rate over so many minutes, or since the start for zero. -/
def rate (b : Bench) (minutes : Nat) : Int := b.count * 100 + minutes * 10

/-- The values that the first probe shows as kept: its count and its place. -/
def kept (b : Bench) : Snapshot := Snapshot.ofList [Int64.ofInt b.count, 0]

/-- The bench with an empty book. -/
def cleared (b : Bench) : Bench := { b with book := [] }

end Bench

end Metering
