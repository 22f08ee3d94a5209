import Metering.Decimal.Layout
import Metering.Json.Value
import Metering.Sample

/-!
# Metering — samples as lines of a log

Each sample is one line, as text for people or as a JSON object for programs.

* `LineFormat` — the two formats;
* `textLine` — the fields as `key=value`, set off by commas;
* `jsonLine` — a compact object; a real number that is not finite is `null`.
-/

namespace Metering.Report

/-- How a sample is written into a log. -/
inductive LineFormat where
  | text
  | json
  deriving DecidableEq

/-! ## Text -/

/-- A named figure of a line. -/
abbrev Field := String × String

/-- The text of a real number. -/
def plainText (x : Float) : String := Decimal.Layout.plain.render x

/-- The fields of rates. -/
def rateFields (r : Rates) : List Field :=
  [("mean_rate", plainText r.mean), ("m1", plainText r.one), ("m5", plainText r.five),
    ("m15", plainText r.fifteen), ("rate_unit", "events/second")]

/-- The fields of a distribution. -/
def spreadFields (d : Distribution) : List Field :=
  [("min", toString d.min.toInt), ("max", toString d.max.toInt), ("mean", plainText d.mean),
    ("stddev", plainText d.deviation), ("median", plainText d.median), ("p75", plainText d.p75),
    ("p95", plainText d.p95), ("p98", plainText d.p98), ("p99", plainText d.p99),
    ("p999", plainText d.p999)]

/-- The kind of a reading as it stands at the front of a line. -/
def lineLabel : Reading → String
  | .counter .. => "COUNTER"
  | .meter .. => "METER"
  | .histogram .. => "HISTOGRAM"
  | .timer .. => "TIMER"
  | .gauge .. => "GAUGE"

/-- The fields of a reading. -/
def readingFields : Reading → List Field
  | .counter count => [("count", toString count.toInt)]
  | .meter count rates => ("count", toString count.toNat) :: rateFields rates
  | .histogram count spread => ("count", toString count.toNat) :: spreadFields spread
  | .timer count rates spread =>
    ("count", toString count.toNat) :: spreadFields spread ++ rateFields rates
  | .gauge value => [("value", plainText value)]

/-- The line of a sample for people. -/
def textLine (s : Sample) : String :=
  let fields := ("type", lineLabel s.reading) :: ("name", s.name) :: readingFields s.reading
  String.intercalate ", " (fields.map fun f => f.1 ++ "=" ++ f.2)

/-! ## JSON -/

/-- A real number, or `null` in place of one that is not finite. -/
def realJson (x : Float) : Json :=
  if (Decimal.Binary64.ofFloat x).isFinite then
    .number (Decimal.Layout.interchange.render x).toList
  else .null

/-- An integer. -/
def wordJson (n : Int64) : Json := .number (toString n.toInt).toList

/-- A count. -/
def countJson (n : UInt64) : Json := .number (toString n.toNat).toList

/-- The object of rates. -/
def ratesJson (r : Rates) : Json :=
  .ofMembers [("mean_rate", realJson r.mean), ("m1_rate", realJson r.one),
    ("m5_rate", realJson r.five), ("m15_rate", realJson r.fifteen)]

/-- The object of a distribution. -/
def spreadJson (d : Distribution) : Json :=
  .ofMembers [("min", wordJson d.min), ("max", wordJson d.max), ("mean", realJson d.mean),
    ("std_dev", realJson d.deviation), ("median", realJson d.median), ("p75", realJson d.p75),
    ("p95", realJson d.p95), ("p98", realJson d.p98), ("p99", realJson d.p99),
    ("p999", realJson d.p999)]

/-- The members of a reading. -/
def readingMembers : Reading → List (String × Json)
  | .counter count => [("count", wordJson count)]
  | .meter count rates => [("count", countJson count), ("rates", ratesJson rates)]
  | .histogram count spread => [("count", countJson count), ("distribution", spreadJson spread)]
  | .timer count rates spread =>
    [("count", countJson count), ("rates", ratesJson rates), ("distribution", spreadJson spread)]
  | .gauge value => [("value", realJson value)]

/-- The object of a sample. -/
def sampleJson (s : Sample) : Json :=
  .ofMembers (("name", .ofText s.name) :: ("type", .ofText s.reading.label) ::
    readingMembers s.reading)

/-- The line of a sample for programs. -/
def jsonLine (s : Sample) : String := String.ofList (sampleJson s).render

/-- The line of a sample. -/
def LineFormat.line : LineFormat → Sample → String
  | text, s => textLine s
  | json, s => jsonLine s

end Metering.Report
