import Metering.Report.Line

/-!
# Metering — samples as rows of tables

Each metric has a table of its own in a file: a header, and a row for every time it was
reported, which starts with the time.

* `columns` — the titles and figures of a reading;
* `headerRow`, `dataRow` — the lines of the file;
* `fileName`, `filePath` — where the table of a metric is kept.
-/

namespace Metering.Report

/-- The columns of rates. -/
def rateColumns (r : Rates) : List Field :=
  [("mean_rate", plainText r.mean), ("m1_rate", plainText r.one), ("m5_rate", plainText r.five),
    ("m15_rate", plainText r.fifteen)]

/-- The columns of a distribution. -/
def spreadColumns (d : Distribution) : List Field :=
  [("max", toString d.max.toInt), ("mean", plainText d.mean), ("min", toString d.min.toInt),
    ("stddev", plainText d.deviation), ("p50", plainText d.median), ("p75", plainText d.p75),
    ("p95", plainText d.p95), ("p98", plainText d.p98), ("p99", plainText d.p99),
    ("p999", plainText d.p999)]

/-- The columns of a reading, without the time. -/
def columns : Reading → List Field
  | .counter count => [("count", toString count.toInt)]
  | .meter count rates => ("count", toString count.toNat) :: rateColumns rates
  | .histogram count spread => ("count", toString count.toNat) :: spreadColumns spread
  | .timer count rates spread =>
    ("count", toString count.toNat) :: spreadColumns spread ++ rateColumns rates
  | .gauge value => [("value", plainText value)]

/-- Cells with a comma between neighbours, and the end of the line. -/
def row (cells : List String) : String := String.intercalate "," cells ++ "\n"

/-- The first line of a table. -/
def headerRow (r : Reading) : String := row ("t" :: (columns r).map Prod.fst)

/-- The line of a reading made at a time, in seconds. -/
def dataRow (time : Nat) (r : Reading) : String :=
  row (toString time :: (columns r).map Prod.snd)

/-! ## Files -/

/-- Whether a character may stand in the name of a file. -/
def isFileChar (c : Char) : Bool :=
  ('a' ≤ c && c ≤ 'z') || ('A' ≤ c && c ≤ 'Z') || ('0' ≤ c && c ≤ '9') ||
    c == '.' || c == '_' || c == '-'

/-- The name of a metric's file: any other character gives way to an underscore. -/
def fileName (metric : String) : String :=
  String.ofList (metric.toList.map fun c => if isFileChar c then c else '_') ++ ".csv"

/-- A name inside a directory. -/
def childPath (directory child : String) : String :=
  if directory = "" then child
  else if directory.toList.getLastD '/' = '/' then directory ++ child
  else directory ++ "/" ++ child

/-- Where the table of a metric is kept. -/
def filePath (directory metric : String) : String := childPath directory (fileName metric)

end Metering.Report
