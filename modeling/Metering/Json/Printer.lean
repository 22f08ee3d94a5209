import Metering.Document.Shape
import Metering.Json.Value

/-!
# Metering — documents in JSON

* `Json.ofDatum` — the JSON value of a datum: records and maps are objects, what is absent is
  null, and a chosen word is a string.
-/

namespace Metering.Json

/-- The decimal digits of a number. -/
def digitsOf (n : Nat) : List Char := Nat.toDigits 10 n

mutual

/-- The JSON value of a datum. -/
def ofDatum : Datum → Json
  | .switch on => .bool on
  | .word n => .number (digitsOf n.toNat)
  | .text s => ofText s
  | .choice word => ofText word
  | .absent => .null
  | .present d => ofDatum d
  | .list items => .array (ofItems items)
  | .map entries => .object (ofEntries entries)
  | .record fields => .object (ofEntries fields)

/-- The JSON values of several data. -/
def ofItems : List Datum → List Json
  | [] => []
  | d :: ds => ofDatum d :: ofItems ds

/-- The members of named data. -/
def ofEntries : List (String × Datum) → List (List Char × Json)
  | [] => []
  | (key, d) :: es => (Text.encode key.toList, ofDatum d) :: ofEntries es

end

end Metering.Json
