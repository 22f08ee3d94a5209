import Metering.Scalar

/-!
# Metering — snapshots of recorded values

A snapshot holds recorded values in ascending order and describes their distribution.

* `Snapshot.ofList` — the snapshot of values in any order;
* `Snapshot.quantile` — the value below which a given share of the values lies, between two
  neighbours by linear interpolation;
* `Snapshot.mean`, `Snapshot.deviation` — the average and the spread around it.
-/

namespace Metering

/-- Recorded values in ascending order. -/
structure Snapshot where
  values : List Int64
  ascending : values.Pairwise (· ≤ ·)

namespace Snapshot

/-- The snapshot of values given in any order. -/
def ofList (values : List Int64) : Snapshot where
  values := values.mergeSort
  ascending := by
    have h := @List.pairwise_mergeSort Int64 (fun a b => decide (a ≤ b))
      (fun a b c hab hbc => by
        simp only [decide_eq_true_eq] at *; exact Int64.le_trans hab hbc)
      (fun a b => by
        simp only [Bool.or_eq_true, decide_eq_true_eq]; exact Int64.le_total a b) values
    simpa using h

/-- The snapshot without values. -/
def empty : Snapshot := ⟨[], List.Pairwise.nil⟩

/-- How many values there are. -/
def size (s : Snapshot) : Nat := s.values.length

/-- The smallest value; zero if there is none. -/
def min (s : Snapshot) : Int64 := s.values.headD 0

/-- The largest value; zero if there is none. -/
def max (s : Snapshot) : Int64 := s.values.getLastD 0

/-- The value at a share `q` of the way through the values. With `n` values the place is
`q * (n + 1)`, counted from one; before the first place stands the smallest value, from the last
place on the largest, and between two places the weighted mean of the two neighbours. -/
def quantileIn {N : Type} [Scalar N] (s : Snapshot) (q : N) : N :=
  if s.size = 0 then Scalar.ofWord 0
  else
    let place := Scalar.unit q * Scalar.ofSize (s.size + 1)
    let index := Scalar.whole place
    if index < 1 then Scalar.ofWord s.min
    else if h : index < s.size then
      let lower : N := Scalar.ofWord (s.values.get ⟨index - 1, by unfold size at h; omega⟩)
      let upper : N := Scalar.ofWord (s.values.get ⟨index, h⟩)
      lower + Scalar.fraction place * (upper - lower)
    else Scalar.ofWord s.max

/-- The quantile in floating point. -/
def quantile (s : Snapshot) (q : Float) : Float := s.quantileIn q

/-- The average of the values, summed in ascending order; zero if there is none. -/
def mean (s : Snapshot) : Float :=
  if s.size = 0 then 0
  else
    (s.values.map Int64.toFloat).foldl (· + ·) 0 / (UInt64.ofNat s.size).toFloat

/-- The square root of the mean squared distance from the average, taken over one value less
than there are; zero for fewer than two values. -/
def deviation (s : Snapshot) : Float :=
  if s.size ≤ 1 then 0
  else
    let centre := s.mean
    let squares := s.values.map fun v => (v.toFloat - centre) * (v.toFloat - centre)
    (squares.foldl (· + ·) 0 / (UInt64.ofNat (s.size - 1)).toFloat).sqrt

end Snapshot

/-! ## Distributions -/

/-- A distribution as it is reported: extremes, average, spread and six quantiles. -/
structure Distribution where
  min : Int64
  max : Int64
  mean : Float
  deviation : Float
  median : Float
  p75 : Float
  p95 : Float
  p98 : Float
  p99 : Float
  p999 : Float

/-- The distribution that a snapshot shows. -/
def Snapshot.distribution (s : Snapshot) : Distribution where
  min := s.min
  max := s.max
  mean := s.mean
  deviation := s.deviation
  median := s.quantile 0.5
  p75 := s.quantile 0.75
  p95 := s.quantile 0.95
  p98 := s.quantile 0.98
  p99 := s.quantile 0.99
  p999 := s.quantile 0.999

/-- The eight real-valued figures of a distribution, in the order in which they are written. -/
def Distribution.figures (d : Distribution) : List Float :=
  [d.mean, d.deviation, d.median, d.p75, d.p95, d.p98, d.p99, d.p999]

end Metering
