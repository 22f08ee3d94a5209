import Metering.Report.Line

/-!
# Metering — samples as a page of text

All samples of one cycle make one page: a heading with the time, and under each metric's name its
figures in a column.

* `pageRows` — the labels and figures of a reading;
* `page` — the text of a cycle.
-/

namespace Metering.Report

/-- A rate on a page. -/
def pageRate (x : Float) : String := Decimal.twoPlaces x ++ "/s"

/-- The rows of rates. -/
def rateRows (r : Rates) : List Field :=
  [("mean rate", pageRate r.mean), ("1-minute rate", pageRate r.one),
    ("5-minute rate", pageRate r.five), ("15-minute rate", pageRate r.fifteen)]

/-- The rows of a distribution. -/
def spreadRows (d : Distribution) : List Field :=
  [("min", toString d.min.toInt), ("max", toString d.max.toInt),
    ("mean", Decimal.twoPlaces d.mean), ("stddev", Decimal.twoPlaces d.deviation),
    ("median", Decimal.twoPlaces d.median), ("75%", Decimal.twoPlaces d.p75),
    ("95%", Decimal.twoPlaces d.p95), ("98%", Decimal.twoPlaces d.p98),
    ("99%", Decimal.twoPlaces d.p99), ("99.9%", Decimal.twoPlaces d.p999)]

/-- The rows of a reading. -/
def pageRows : Reading → List Field
  | .counter count => [("count", toString count.toInt)]
  | .meter count rates => ("count", toString count.toNat) :: rateRows rates
  | .histogram count spread => ("count", toString count.toNat) :: spreadRows spread
  | .timer count rates spread =>
    ("count", toString count.toNat) :: rateRows rates ++ spreadRows spread
  | .gauge value => [("value", plainText value)]

/-- The width of the labels, which end at the same column. -/
def labelWidth : Nat := 16

/-- A label and a figure. -/
def pageRow (f : Field) : String :=
  String.ofList (List.replicate (labelWidth - f.1.length) ' ') ++ f.1 ++ " = " ++ f.2 ++ "\n"

/-- A name and the rows under it. -/
def pageBlock (s : Sample) : String :=
  s.name ++ "\n" ++ String.join ((pageRows s.reading).map pageRow)

/-- The page of all samples at a time, with an empty line at its end. -/
def page (time : Nat) (samples : List Sample) : String :=
  s!"-- metrics @ {time} ({samples.length} metrics)\n" ++
    String.join (samples.map pageBlock) ++ "\n"

end Metering.Report
