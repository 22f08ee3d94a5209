/-!
# Metering — the numbers that statistics compute with

Quantiles and moving averages are computed by one formula each, over any type of scalars: in
binary floating point where they run, and in exact fractions where their laws are stated.

* `Scalar` — what the formulas need of a type of numbers;
* the instances for `Float` and `Rat`.
-/

namespace Metering

/-- Numbers that recorded values and counts can be turned into. -/
class Scalar (N : Type) extends Add N, Sub N, Mul N, Div N where
  /-- The number nearest to a recorded value. -/
  ofWord : Int64 → N
  /-- The number nearest to a count. -/
  ofCount : UInt64 → N
  /-- The number nearest to how many there are of something. -/
  ofSize : Nat → N
  /-- The whole part of a number that is not negative. -/
  whole : N → Nat
  /-- The distance from the next whole number below. -/
  fraction : N → N
  /-- The nearest number between zero and one; what is no number counts as zero. -/
  unit : N → N

/-- The number as a share of one. -/
def floatUnit (x : Float) : Float :=
  if x.isNaN then 0 else if x < 0 then 0 else if 1 < x then 1 else x

instance : Scalar Float where
  ofWord := Int64.toFloat
  ofCount := UInt64.toFloat
  ofSize n := (UInt64.ofNat n).toFloat
  whole x := x.toUInt64.toNat
  fraction x := x - x.floor
  unit := floatUnit

instance : Scalar Rat where
  ofWord n := (n.toInt : Rat)
  ofCount n := (n.toNat : Rat)
  ofSize n := (n : Rat)
  whole x := x.floor.toNat
  fraction x := x - (x.floor : Rat)
  unit x := if x < 0 then 0 else if 1 < x then 1 else x

end Metering
